import OplusHardware.QtiVibrator.Service

/-!
# QtiVibrator — what play reports

`play` with a nonzero timeout ends in one of five ways (`StartCase`).
Four of them answer what happened. In the fifth the start event fails,
the clean-up `EVIOCRMFF` succeeds, and its result overwrites the `-1` of
the failed write, so `play` answers `0` for a motor that never ran.
-/

namespace OplusHardware.QtiVibrator

open InputFFDevice

variable {getEffectStream : UInt32 → Option EffectStream}
  {dev : InputFFDevice} {kernel : FfKernel} {effectId : Int32}
  {timeoutMs : UInt32} {playLengthMs : Option Int} {o : PlayOutcomes}

namespace InputFFDevice

/-! ## The steps of one request -/

/-- The device once the previous effect, if any, is removed. -/
def withoutPrevious (dev : InputFFDevice) (kernel : FfKernel) : FfKernel :=
  if dev.mCurrAppId ≠ invalidValue then kernel.erase dev.mCurrAppId else kernel

/-- The previous effect was removed, or there was none. -/
def removalOk (dev : InputFFDevice) (o : PlayOutcomes) : Bool :=
  decide (dev.mCurrAppId = invalidValue) || o.removePrevious

/-- `EVIOCSFF` succeeds on the device without the previous effect. -/
def uploadOk (dev : InputFFDevice) (kernel : FfKernel) (o : PlayOutcomes) : Bool :=
  match o.upload with
  | none => false
  | some r => (dev.withoutPrevious kernel).accepts r.id

/-- **Every step the request needs succeeds**: the removal of the
previous effect when there is one, the upload, and the start event. -/
def neededSteps (dev : InputFFDevice) (kernel : FfKernel) (o : PlayOutcomes) : Bool :=
  dev.removalOk o && dev.uploadOk kernel o && o.start

/-- **The path that hides a failure**: the start event fails and the
clean-up that follows it succeeds. -/
def cleanupHidesFailure (dev : InputFFDevice) (kernel : FfKernel)
    (o : PlayOutcomes) : Bool :=
  dev.removalOk o && dev.uploadOk kernel o && !o.start && o.removeNew

/-- The object with another id in `mCurrAppId`, the only member `play`
assigns. -/
def withId (dev : InputFFDevice) (id : Int16) : InputFFDevice :=
  { dev with mCurrAppId := id }

@[simp] theorem withId_mCurrAppId (id : Int16) : (dev.withId id).mCurrAppId = id := rfl

/-- The object with another magnitude, which `playEffect` assigns. -/
def withMagnitude (dev : InputFFDevice) (magnitude : Int16) : InputFFDevice :=
  { dev with mCurrMagnitude := magnitude }

/-- The magnitude decides nothing about which steps succeed. -/
theorem cleanupHidesFailure_withMagnitude (m : Int16) :
    (dev.withMagnitude m).cleanupHidesFailure kernel o =
      dev.cleanupHidesFailure kernel o := rfl

theorem withId_self (h : dev.mCurrAppId = invalidValue) :
    dev.withId invalidValue = dev := by
  rw [withId, ← h]

/-- The value behind `playLengthMs` once the effect is uploaded. -/
def storedLength (stream : Option EffectStream) (effectId : Int32)
    (playLengthMs : Option Int) (r : UploadReply) : Option Int :=
  if effectId ≠ invalidValue then playLengthMs.map fun _ => effectLengthMs stream r
  else playLengthMs

/-! ## The five ways a request ends -/

/-- Everything `play` can do for a nonzero timeout on an open device, by
the step that decides it. -/
inductive StartCase (dev : InputFFDevice) (kernel : FfKernel)
    (stream : Option EffectStream) (effectId : Int32) (timeoutMs : UInt32)
    (playLengthMs : Option Int) (o : PlayOutcomes) : PlayResult → Prop where
  | removeFails (hr : dev.removalOk o = false) :
      StartCase dev kernel stream effectId timeoutMs playLengthMs o
        ⟨-1, dev.withId invalidValue, kernel, playLengthMs⟩
  | uploadFails (hr : dev.removalOk o = true) (hu : dev.uploadOk kernel o = false) :
      StartCase dev kernel stream effectId timeoutMs playLengthMs o
        ⟨-1, dev.withId invalidValue, dev.withoutPrevious kernel, playLengthMs⟩
  | started (hr : dev.removalOk o = true) {r : UploadReply} (hu : o.upload = some r)
      (ha : (dev.withoutPrevious kernel).accepts r.id = true) (hs : o.start = true) :
      StartCase dev kernel stream effectId timeoutMs playLengthMs o
        ⟨0, dev.withId r.id,
          ((dev.withoutPrevious kernel).insert
            (buildEffect (dev.withId invalidValue) stream effectId timeoutMs)
            r.id ha).start r.id,
          storedLength stream effectId playLengthMs r⟩
  | startFails (hr : dev.removalOk o = true) {r : UploadReply} (hu : o.upload = some r)
      (ha : (dev.withoutPrevious kernel).accepts r.id = true) (hs : o.start = false)
      (hc : o.removeNew = false) :
      StartCase dev kernel stream effectId timeoutMs playLengthMs o
        ⟨-1, dev.withId invalidValue,
          (dev.withoutPrevious kernel).insert
            (buildEffect (dev.withId invalidValue) stream effectId timeoutMs)
            r.id ha,
          storedLength stream effectId playLengthMs r⟩
  | hidden (hr : dev.removalOk o = true) {r : UploadReply} (hu : o.upload = some r)
      (ha : (dev.withoutPrevious kernel).accepts r.id = true) (hs : o.start = false)
      (hc : o.removeNew = true) :
      StartCase dev kernel stream effectId timeoutMs playLengthMs o
        ⟨0, dev.withId invalidValue,
          ((dev.withoutPrevious kernel).insert
            (buildEffect (dev.withId invalidValue) stream effectId timeoutMs)
            r.id ha).erase r.id,
          storedLength stream effectId playLengthMs r⟩

/-- Upload and start end in the four ways that come after the removal. -/
theorem uploadAndStart_cases (stream : Option EffectStream)
    (hr : dev.removalOk o = true) :
    StartCase dev kernel stream effectId timeoutMs playLengthMs o
      (uploadAndStart (dev.withId invalidValue) (dev.withoutPrevious kernel) stream
        effectId timeoutMs playLengthMs o) := by
  rw [uploadAndStart]
  cases hup : (dev.withoutPrevious kernel).evioCSff
      (buildEffect (dev.withId invalidValue) stream effectId timeoutMs) o.upload with
  | none =>
      refine .uploadFails hr ?_
      rw [uploadOk]
      cases ho : o.upload with
      | none => rfl
      | some r =>
          rw [ho] at hup
          simpa [FfKernel.evioCSff] using hup
  | some res =>
      obtain ⟨r, k⟩ := res
      obtain ⟨hu, ha, rfl⟩ := FfKernel.evioCSff_some hup
      cases hs : o.start with
      | true =>
          have h : StartCase dev kernel stream effectId timeoutMs playLengthMs o _ :=
            .started hr hu ha hs
          simpa [startEffect, hs, FfKernel.writeStart, FfKernel.sizeofInputEvent,
            withId, storedLength] using h
      | false =>
          cases hc : o.removeNew with
          | true =>
              -- `ret` is the result of the clean-up, which is `0`
              have h : StartCase dev kernel stream effectId timeoutMs playLengthMs o _ :=
                .hidden hr hu ha hs hc
              simpa [startEffect, hs, hc, FfKernel.writeStart, errout, withId,
                storedLength] using h
          | false =>
              have h : StartCase dev kernel stream effectId timeoutMs playLengthMs o _ :=
                .startFails hr hu ha hs hc
              simpa [startEffect, hs, hc, FfKernel.writeStart, errout, withId,
                storedLength] using h

/-- Past the removal of the previous effect, `play` is upload and start. -/
theorem play_removed (hfd : dev.mVibraFd ≠ invalidValue) (ht : timeoutMs ≠ 0)
    (hr : dev.removalOk o = true) :
    play getEffectStream dev kernel effectId timeoutMs playLengthMs o =
      uploadAndStart (dev.withId invalidValue) (dev.withoutPrevious kernel)
        (getEffectStream effectId.toUInt32) effectId timeoutMs playLengthMs o := by
  rw [play, if_neg hfd, if_pos ht]
  by_cases hid : dev.mCurrAppId = invalidValue
  · rw [if_neg (not_not.mpr hid), withId_self hid, withoutPrevious,
      if_neg (not_not.mpr hid)]
  · have hrm : o.removePrevious = true := by simpa [removalOk, hid] using hr
    rw [if_pos hid, withoutPrevious, if_pos hid]
    simp [hrm, withId]

/-- When the removal fails, `play` goes to `errout`. -/
theorem play_notRemoved (hfd : dev.mVibraFd ≠ invalidValue) (ht : timeoutMs ≠ 0)
    (hr : dev.removalOk o = false) :
    play getEffectStream dev kernel effectId timeoutMs playLengthMs o =
      ⟨-1, dev.withId invalidValue, kernel, playLengthMs⟩ := by
  simp only [removalOk, Bool.or_eq_false_iff, decide_eq_false_iff_not] at hr
  obtain ⟨hid, hrm⟩ := hr
  rw [play, if_neg hfd, if_pos ht, if_pos hid]
  simp [hrm, errout, withId]

/-- **What a request to vibrate can do**, on an open device. -/
theorem play_cases (hfd : dev.mVibraFd ≠ invalidValue) (ht : timeoutMs ≠ 0) :
    StartCase dev kernel (getEffectStream effectId.toUInt32) effectId timeoutMs
      playLengthMs o
      (play getEffectStream dev kernel effectId timeoutMs playLengthMs o) := by
  cases hr : dev.removalOk o with
  | true =>
      rw [play_removed hfd ht hr]
      exact uploadAndStart_cases _ hr
  | false =>
      rw [play_notRemoved hfd ht hr]
      exact .removeFails hr

/-! ## What the answer says -/

theorem uploadOk_of_accepts {r : UploadReply} (hu : o.upload = some r)
    (ha : (dev.withoutPrevious kernel).accepts r.id = true) :
    dev.uploadOk kernel o = true := by
  rw [uploadOk, hu]
  exact ha

/-- A request never both succeeds and hides a failure. -/
theorem not_hides_of_neededSteps (h : dev.neededSteps kernel o = true) :
    dev.cleanupHidesFailure kernel o = false := by
  simp only [neededSteps, Bool.and_eq_true] at h
  simp [cleanupHidesFailure, h.2]

/-- `0` is answered for a request that succeeded and for one whose
failure was hidden, and for no other. -/
theorem StartCase.ret_eq_zero_iff {stream : Option EffectStream} {r : PlayResult}
    (h : StartCase dev kernel stream effectId timeoutMs playLengthMs o r) :
    r.ret = 0 ↔
      dev.neededSteps kernel o = true ∨ dev.cleanupHidesFailure kernel o = true := by
  cases h with
  | removeFails hr => simp [neededSteps, cleanupHidesFailure, hr]
  | uploadFails hr hu => simp [neededSteps, cleanupHidesFailure, hu]
  | started hr hu ha hs =>
      simp [neededSteps, hr, uploadOk_of_accepts hu ha, hs]
  | startFails hr hu ha hs hc =>
      simp [neededSteps, cleanupHidesFailure, hs, hc]
  | hidden hr hu ha hs hc =>
      simp [cleanupHidesFailure, hr, uploadOk_of_accepts hu ha, hs, hc]

theorem invalid_notMem_playing (k : FfKernel) :
    (invalidValue : Int16) ∉ k.playing :=
  k.neg_one_notMem_playing

/-- The loaded effect plays exactly when every needed step succeeded. -/
theorem StartCase.playing_iff {stream : Option EffectStream} {r : PlayResult}
    (h : StartCase dev kernel stream effectId timeoutMs playLengthMs o r) :
    r.dev.mCurrAppId ∈ r.kernel.playing ↔ dev.neededSteps kernel o = true := by
  cases h with
  | removeFails hr => simp [neededSteps, hr, invalid_notMem_playing]
  | uploadFails hr hu => simp [neededSteps, hu, invalid_notMem_playing]
  | @started hr r hu ha hs =>
      have hmem : r.id ∈ ((dev.withoutPrevious kernel).insert
          (buildEffect (dev.withId invalidValue) stream effectId timeoutMs) r.id ha).ids := by
        simp [FfKernel.ids_insert]
      simp [neededSteps, hr, uploadOk_of_accepts hu ha, hs,
        FfKernel.mem_playing_start hmem]
  | startFails hr hu ha hs hc => simp [neededSteps, hs, invalid_notMem_playing]
  | hidden hr hu ha hs hc => simp [neededSteps, hs, invalid_notMem_playing]

end InputFFDevice

/-! ## The service calls -/

/-- The effect the HAL holds loaded after the call is playing. -/
def Reply.motorStarted (r : Reply) : Prop := r.vib.ff.mCurrAppId ∈ r.kernel.playing

instance (r : Reply) : Decidable r.motorStarted :=
  inferInstanceAs (Decidable (_ ∈ _))

/-- The call answers ok, and launches the completion thread, only when
the motor was started. -/
def Reply.honest (r : Reply) : Prop :=
  (r.status = .ok → r.motorStarted) ∧ (r.thread.isSome → r.motorStarted)

instance (r : Reply) : Decidable r.honest :=
  inferInstanceAs (Decidable (_ ∧ _))

/-- A reply that is ok exactly when `play` answered `0`, and launches a
thread only then, is honest exactly when no failure was hidden. -/
theorem honest_iff {stream : Option EffectStream} {p : PlayResult} {r : Reply}
    (h : StartCase dev kernel stream effectId timeoutMs playLengthMs o p)
    (hdev : r.vib.ff = p.dev) (hk : r.kernel = p.kernel)
    (hok : r.status = .ok ↔ p.ret = 0) (hthread : r.thread.isSome → p.ret = 0) :
    r.honest ↔ dev.cleanupHidesFailure kernel o = false := by
  have hstart : r.motorStarted ↔ dev.neededSteps kernel o = true := by
    rw [Reply.motorStarted, hdev, hk]
    exact h.playing_iff
  constructor
  · intro hh
    by_contra hb
    rw [Bool.not_eq_false] at hb
    have hneed := hstart.mp (hh.1 (hok.mpr (h.ret_eq_zero_iff.mpr (.inr hb))))
    rw [not_hides_of_neededSteps hneed] at hb
    cases hb
  · intro hb
    have hzero : p.ret = 0 → r.motorStarted := by
      intro hz
      rcases h.ret_eq_zero_iff.mp hz with hn | hc
      · exact hstart.mpr hn
      · rw [hb] at hc
        cases hc
    exact ⟨fun hs => hzero (hok.mp hs), fun ht => hzero (hthread ht)⟩

theorem toUInt32_ne_zero {t : Int32} (h : t ≠ 0) : t.toUInt32 ≠ 0 := by
  intro h0
  have hback := congrArg UInt32.toInt32 h0
  exact h (by simpa using hback)

/-- `on` is a request to start a plain vibration. -/
theorem on_cases (getEffectStream : UInt32 → Option EffectStream) (kernel : FfKernel)
    (o : PlayOutcomes) {t : Int32} (hfd : dev.mVibraFd ≠ invalidValue) (ht : t ≠ 0) :
    StartCase dev kernel (getEffectStream (invalidValue : Int32).toUInt32) invalidValue
      t.toUInt32 none o (dev.on getEffectStream kernel t o) :=
  play_cases hfd (toUInt32_ne_zero ht)

namespace Vibrator

/-- `on` on the force-feedback backend, by what `play` answered. -/
theorem on_ff {v : Vibrator} {timeout : Int32} {callback : Bool} {env : CallEnv}
    (hled : v.ledVib.mDetected = false) :
    let p := v.ff.on getEffectStream kernel timeout env.play
    v.on getEffectStream kernel timeout callback env =
      if p.ret ≠ 0 then refuse { v with ff := p.dev } p.kernel .exServiceSpecific
      else
        { refuse { v with ff := p.dev } p.kernel .ok with
          thread := onThread callback timeout } := by
  simp [Vibrator.on, hled]

/-- `perform` on the force-feedback backend, for an effect and a
strength it supports. -/
theorem perform_ff {v : Vibrator} {effect : Effect} {es : EffectStrength}
    {callback : Bool} {uninit : Int} {env : CallEnv}
    (hled : v.ledVib.mDetected = false) (hs : ffSupports effect es = true) :
    let p := v.ff.playEffect getEffectStream kernel effect.value es (some uninit) env.play
    v.perform getEffectStream kernel effect es callback uninit env =
      if p.ret ≠ 0 then refuse { v with ff := p.dev } p.kernel .exServiceSpecific
      else
        performed { v with ff := p.dev } p.kernel callback
          (p.playLengthMs.getD uninit) := by
  simp [Vibrator.perform, hled, hs]

/-- A supported strength selects a magnitude, and nothing else. -/
theorem playEffect_eq_play {effect : Effect} {es : EffectStrength}
    (hs : ffSupports effect es = true) :
    ∃ magnitude : Int16,
      dev.playEffect getEffectStream kernel effectId es playLengthMs o =
        play getEffectStream (dev.withMagnitude magnitude) kernel effectId
          (invalidValue : Int32).toUInt32 playLengthMs o := by
  simp only [ffSupports, Bool.and_eq_true, Bool.not_eq_true', Bool.and_eq_false_iff,
    decide_eq_false_iff_not, not_not] at hs
  rcases hs.2 with (rfl | rfl) | rfl
  · exact ⟨_, rfl⟩
  · exact ⟨_, rfl⟩
  · exact ⟨_, rfl⟩

/-- **`Vibrator::on` on the force-feedback backend** answers ok and
launches its thread only for a started motor, unless `play` hid a
failure. -/
theorem on_honest_iff {v : Vibrator} {timeout : Int32} {env : CallEnv} (callback : Bool)
    (hled : v.ledVib.mDetected = false) (hfd : v.ff.mVibraFd ≠ invalidValue)
    (ht : timeout ≠ 0) :
    (v.on getEffectStream kernel timeout callback env).honest ↔
      v.ff.cleanupHidesFailure kernel env.play = false := by
  have hcase := on_cases getEffectStream kernel env.play hfd ht
  have hon : v.on getEffectStream kernel timeout callback env = _ := on_ff hled
  by_cases hz : (v.ff.on getEffectStream kernel timeout env.play).ret = 0
  · exact honest_iff hcase (by simp [hon, hz, refuse]) (by simp [hon, hz, refuse])
      (by simp [hon, hz, refuse]) (fun _ => hz)
  · exact honest_iff hcase (by simp [hon, hz, refuse]) (by simp [hon, hz, refuse])
      (by simp [hon, hz, refuse]) (by simp [hon, hz, refuse])

/-- **The force-feedback branch of `Vibrator::perform`**, likewise. -/
theorem perform_honest_iff {v : Vibrator} {effect : Effect} {es : EffectStrength}
    {uninit : Int} {env : CallEnv} (callback : Bool)
    (hled : v.ledVib.mDetected = false) (hfd : v.ff.mVibraFd ≠ invalidValue)
    (hs : ffSupports effect es = true) :
    (v.perform getEffectStream kernel effect es callback uninit env).honest ↔
      v.ff.cleanupHidesFailure kernel env.play = false := by
  obtain ⟨m, hm⟩ : ∃ m : Int16,
      v.ff.playEffect getEffectStream kernel effect.value es (some uninit) env.play =
        play getEffectStream (v.ff.withMagnitude m) kernel effect.value
          (invalidValue : Int32).toUInt32 (some uninit) env.play := playEffect_eq_play hs
  have hcase : StartCase (v.ff.withMagnitude m) kernel _ effect.value
      (invalidValue : Int32).toUInt32 (some uninit) env.play
      (play getEffectStream (v.ff.withMagnitude m) kernel effect.value
        (invalidValue : Int32).toUInt32 (some uninit) env.play) :=
    play_cases hfd (by decide)
  have hperform : v.perform getEffectStream kernel effect es callback uninit env = _ :=
    perform_ff hled hs
  rw [← hm] at hcase
  rw [← cleanupHidesFailure_withMagnitude m]
  by_cases hz : (v.ff.playEffect getEffectStream kernel effect.value es (some uninit)
      env.play).ret = 0
  · exact honest_iff hcase (by simp [hperform, hz, performed])
      (by simp [hperform, hz, performed]) (by simp [hperform, hz, performed]) (fun _ => hz)
  · exact honest_iff hcase (by simp [hperform, hz, refuse])
      (by simp [hperform, hz, refuse]) (by simp [hperform, hz, refuse])
      (by simp [hperform, hz, refuse])

/-- **When the force-feedback backend reports truthfully.** On an open
device, in every state of the loaded effect and for every pattern of
failures: `play` answers `0` exactly when every needed step succeeded,
and `on` and `perform` answer ok and launch their thread only for a
started motor, if and only if the request does not end with a failed
start event whose clean-up succeeded. -/
theorem reports_started_iff (getEffectStream : UInt32 → Option EffectStream)
    (v : Vibrator) (kernel : FfKernel) (env : CallEnv)
    (hled : v.ledVib.mDetected = false) (hfd : v.ff.mVibraFd ≠ invalidValue) :
    (∀ (effectId : Int32) (timeoutMs : UInt32) (playLengthMs : Option Int),
      timeoutMs ≠ 0 →
      (((play getEffectStream v.ff kernel effectId timeoutMs playLengthMs env.play).ret = 0 ↔
          v.ff.neededSteps kernel env.play = true) ↔
        v.ff.cleanupHidesFailure kernel env.play = false)) ∧
    (∀ (timeoutMs : Int32) (callback : Bool), timeoutMs ≠ 0 →
      ((v.on getEffectStream kernel timeoutMs callback env).honest ↔
        v.ff.cleanupHidesFailure kernel env.play = false)) ∧
    (∀ (effect : Effect) (es : EffectStrength) (callback : Bool) (uninit : Int),
      ffSupports effect es = true →
      ((v.perform getEffectStream kernel effect es callback uninit env).honest ↔
        v.ff.cleanupHidesFailure kernel env.play = false)) := by
  refine ⟨?_, fun _ callback ht => on_honest_iff callback hled hfd ht,
    fun _ _ callback _ hs => perform_honest_iff callback hled hfd hs⟩
  intro effectId timeoutMs playLengthMs ht
  rw [(play_cases hfd ht).ret_eq_zero_iff]
  constructor
  · intro h
    by_contra hb
    rw [Bool.not_eq_false] at hb
    rw [not_hides_of_neededSteps (h.mp (.inr hb))] at hb
    cases hb
  · intro hb
    simp [hb]

/-- A device that is open, with nothing loaded yet. -/
def openDevice : Vibrator :=
  ⟨{ unopened with mVibraFd := 3 }, ⟨false⟩⟩

/-- Every system call succeeds. -/
def noFailures : CallEnv :=
  ⟨⟨true, some ⟨0, 0, 0⟩, true, true⟩, true, []⟩

/-- The upload succeeds, the start event fails, the clean-up succeeds. -/
def startFailsOnly : CallEnv :=
  ⟨⟨true, some ⟨0, 0, 0⟩, false, true⟩, true, []⟩

theorem reports_started_iff_open :
    (openDevice.on (fun _ => none) .empty 200 true noFailures).honest :=
  ((reports_started_iff (fun _ => none) openDevice .empty noFailures rfl
    (by decide)).2.1 200 true (by decide)).mpr (by decide)

/-- **A motor that never ran, reported as started.** `play` answers `0`
although the start event was not written, and `on(200, callback)` answers
ok and launches its thread while nothing plays. -/
theorem failed_start_reported_ok :
    ¬ ((play (fun _ => none) openDevice.ff .empty invalidValue 200 none
          startFailsOnly.play).ret = 0 ↔
        openDevice.ff.neededSteps .empty startFailsOnly.play = true) ∧
    ¬ (openDevice.on (fun _ => none) .empty 200 true startFailsOnly).honest := by
  decide

end Vibrator

end OplusHardware.QtiVibrator
