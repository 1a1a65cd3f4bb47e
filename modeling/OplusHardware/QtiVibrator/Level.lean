import OplusHardware.QtiVibrator.Runs

/-!
# QtiVibrator — the level of a plain vibration

`mCurrMagnitude` is one member with two writers: `setAmplitude`, once the
gain was written, and `playEffect`, before it plays. An `on` uploads
whatever the last of them left, so a predefined effect sets the level of
the plain vibrations after it.
-/

namespace OplusHardware.QtiVibrator

open InputFFDevice OplusHardware.Base

variable {getEffectStream : UInt32 → Option EffectStream}

namespace InputFFDevice

variable {dev : InputFFDevice} {kernel : FfKernel} {effectId : Int32}
  {timeoutMs : UInt32} {playLengthMs : Option Int} {o : PlayOutcomes}

/-! ## What play uploads -/

/-- The effect that the `EVIOCSFF` of a `play` takes, if it gets that far
and succeeds. -/
def uploads (getEffectStream : UInt32 → Option EffectStream) (dev : InputFFDevice)
    (kernel : FfKernel) (effectId : Int32) (timeoutMs : UInt32) (o : PlayOutcomes) :
    List FfEffect :=
  if dev.mVibraFd ≠ invalidValue ∧ timeoutMs ≠ 0 ∧ dev.removalOk o = true ∧
      dev.uploadOk kernel o = true then
    [buildEffect (dev.withId invalidValue) (getEffectStream effectId.toUInt32) effectId
      timeoutMs]
  else []

@[simp] theorem taken_withoutPrevious : (dev.withoutPrevious kernel).taken = kernel.taken := by
  rw [withoutPrevious]
  split <;> rfl

/-- A request to start uploads what it built, where the removal and the
upload succeed. -/
theorem StartCase.taken_eq {p : PlayResult}
    (h : StartCase dev kernel (getEffectStream effectId.toUInt32) effectId timeoutMs
      playLengthMs o p)
    (hfd : dev.mVibraFd ≠ invalidValue) (ht : timeoutMs ≠ 0) :
    p.kernel.taken =
      kernel.taken ++ dev.uploads getEffectStream kernel effectId timeoutMs o := by
  cases h with
  | removeFails hr => simp [uploads, hr]
  | uploadFails hr hu => simp [uploads, hu]
  | started hr hu ha hs => simp [uploads, hfd, ht, hr, uploadOk_of_accepts hu ha]
  | startFails hr hu ha hs hc => simp [uploads, hfd, ht, hr, uploadOk_of_accepts hu ha]
  | hidden hr hu ha hs hc => simp [uploads, hfd, ht, hr, uploadOk_of_accepts hu ha]

/-- **What the device has taken after a `play`.** -/
theorem play_taken (getEffectStream : UInt32 → Option EffectStream) (dev : InputFFDevice)
    (kernel : FfKernel) (effectId : Int32) (timeoutMs : UInt32) (playLengthMs : Option Int)
    (o : PlayOutcomes) :
    (play getEffectStream dev kernel effectId timeoutMs playLengthMs o).kernel.taken =
      kernel.taken ++ dev.uploads getEffectStream kernel effectId timeoutMs o := by
  by_cases hfd : dev.mVibraFd = invalidValue
  · rw [play_closed hfd]
    simp [uploads, hfd]
  · by_cases h0 : timeoutMs = 0
    · subst h0
      rw [play_stop hfd]
      split <;> simp [uploads]
    · exact (play_cases hfd h0).taken_eq hfd h0

/-- A request to start that answers `0` has uploaded one effect. -/
theorem StartCase.uploads_eq {p : PlayResult}
    (h : StartCase dev kernel (getEffectStream effectId.toUInt32) effectId timeoutMs
      playLengthMs o p)
    (hfd : dev.mVibraFd ≠ invalidValue) (ht : timeoutMs ≠ 0) (hret : p.ret = 0) :
    dev.uploads getEffectStream kernel effectId timeoutMs o =
      [buildEffect (dev.withId invalidValue) (getEffectStream effectId.toUInt32) effectId
        timeoutMs] := by
  cases h with
  | removeFails hr => cases hret
  | uploadFails hr hu => cases hret
  | started hr hu ha hs => simp [uploads, hfd, ht, hr, uploadOk_of_accepts hu ha]
  | startFails hr hu ha hs hc => cases hret
  | hidden hr hu ha hs hc => simp [uploads, hfd, ht, hr, uploadOk_of_accepts hu ha]

/-- The effect under `mCurrAppId` after a request to start is the one it
built. -/
theorem StartCase.loaded {stream : Option EffectStream} {p : PlayResult}
    (h : StartCase dev kernel stream effectId timeoutMs playLengthMs o p) {x : FfEffect}
    (hx : x ∈ p.kernel.effects) (hid : x.id = p.dev.mCurrAppId) :
    x.payload =
      (buildEffect (dev.withId invalidValue) stream effectId timeoutMs).payload := by
  have hnone : p.dev.mCurrAppId ≠ invalidValue := by
    intro hbad
    have hmem : x.id ∈ p.kernel.ids := List.mem_map_of_mem hx
    rw [hid, hbad] at hmem
    exact p.kernel.neg_one_notMem_ids hmem
  cases h with
  | started hr hu ha hs =>
      rw [FfKernel.effects_start] at hx
      rw [FfKernel.eq_of_mem_insert hx hid]
  | _ => exact absurd rfl hnone

theorem StartCase.mCurrMagnitude_eq {stream : Option EffectStream} {r : PlayResult}
    (h : StartCase dev kernel stream effectId timeoutMs playLengthMs o r) :
    r.dev.mCurrMagnitude = dev.mCurrMagnitude := by
  cases h <;> rfl

/-- `play` reads the magnitude and never writes it. -/
theorem play_mCurrMagnitude (getEffectStream : UInt32 → Option EffectStream)
    (dev : InputFFDevice) (kernel : FfKernel) (effectId : Int32) (timeoutMs : UInt32)
    (playLengthMs : Option Int) (o : PlayOutcomes) :
    (play getEffectStream dev kernel effectId timeoutMs playLengthMs o).dev.mCurrMagnitude =
      dev.mCurrMagnitude := by
  by_cases hfd : dev.mVibraFd = invalidValue
  · rw [play_closed hfd]
  · by_cases h0 : timeoutMs = 0
    · subst h0
      rw [play_stop hfd]
      split <;> rfl
    · exact (play_cases hfd h0).mCurrMagnitude_eq

/-- The magnitude `playEffect` selects for a strength. -/
def strengthMagnitude (es : EffectStrength) : Option Int32 :=
  if es = .light then some lightMagnitude
  else if es = .medium then some mediumMagnitude
  else if es = .strong then some strongMagnitude
  else none

/-- **`playEffect` stores its magnitude whatever becomes of the play.** -/
theorem playEffect_mCurrMagnitude {es : EffectStrength} :
    (dev.playEffect getEffectStream kernel effectId es playLengthMs o).dev.mCurrMagnitude =
      ((strengthMagnitude es).map Int32.toInt16).getD dev.mCurrMagnitude := by
  rw [playEffect, strengthMagnitude]
  split_ifs
  · exact play_mCurrMagnitude ..
  · exact play_mCurrMagnitude ..
  · exact play_mCurrMagnitude ..
  · rfl

/-- `setAmplitude` stores the gain once the device took it. -/
theorem setAmplitude_mCurrMagnitude {amplitude : UInt8} {gainWrite : Bool}
    (hfd : dev.mVibraFd ≠ invalidValue) :
    (dev.setAmplitude kernel amplitude gainWrite).2.1.mCurrMagnitude =
      if (dev.setAmplitude kernel amplitude gainWrite).1 = 0 then
        (amplitudeGain amplitude).toInt16
      else dev.mCurrMagnitude := by
  rw [setAmplitude, if_neg hfd]
  cases gainWrite with
  | true => simp [FfKernel.writeGain, FfKernel.sizeofInputEvent]
  | false => simp [FfKernel.writeGain]

end InputFFDevice

namespace Hal

/-! ## The level a run has set -/

/-- The level a call sets: that of a `setAmplitude` that answers ok, or that
of the strength of a `perform` the force-feedback branch lets through. -/
def levelSet (x : Hal × (Call × CallEnv)) : Option Int16 :=
  match x.2.1 with
  | .setAmplitude amplitude =>
      if (x.1.vib.setAmplitude x.1.kernel amplitude x.2.2).status = .ok then
        some (amplitudeGain amplitude.scaled).toInt16
      else none
  | .perform effect es _ _ =>
      if Vibrator.ffSupports effect es then (strengthMagnitude es).map Int32.toInt16
      else none
  | .on _ _ => none
  | .off => none
  | .setExternalControl _ => none

/-- **The level of the last call of a run that set one**, and full strength
before the first. -/
def lastLevel (h : List (Hal × (Call × CallEnv))) : Int16 :=
  (h.filterMap levelSet).getLast?.getD 0x7fff

theorem lastLevel_append_single (h : List (Hal × (Call × CallEnv)))
    (x : Hal × (Call × CallEnv)) :
    lastLevel (h ++ [x]) = (levelSet x).getD (lastLevel h) := by
  rw [lastLevel, List.filterMap_append]
  cases hx : levelSet x with
  | none => simp [hx, lastLevel]
  | some level => simp [hx]

/-- **One call moves the magnitude exactly when it sets a level.** -/
theorem after_mCurrMagnitude (getEffectStream : UInt32 → Option EffectStream) {s : Hal}
    (hled : s.vib.ledVib.mDetected = false) (hfd : s.vib.ff.mVibraFd ≠ invalidValue)
    (c : Call) (env : CallEnv) :
    (after (s.serve getEffectStream c env)).vib.ff.mCurrMagnitude =
      (levelSet (s, (c, env))).getD s.vib.ff.mCurrMagnitude := by
  cases c with
  | on t callback =>
      have hplay : (s.vib.ff.on getEffectStream s.kernel t env.play).dev.mCurrMagnitude =
          s.vib.ff.mCurrMagnitude := play_mCurrMagnitude ..
      rw [serve, Vibrator.on_ff hled]
      split <;> simpa [after, Vibrator.refuse, levelSet] using hplay
  | off =>
      have hplay : (s.vib.ff.off getEffectStream s.kernel env.play).dev.mCurrMagnitude =
          s.vib.ff.mCurrMagnitude := play_mCurrMagnitude ..
      simpa [serve, Vibrator.off, hled, after, Vibrator.refuse, levelSet] using hplay
  | perform effect es callback uninit =>
      cases hs : Vibrator.ffSupports effect es with
      | false => simp [serve, Vibrator.perform, hled, hs, after, Vibrator.refuse, levelSet]
      | true =>
          have hplay : (s.vib.ff.playEffect getEffectStream s.kernel effect.value es
              (some uninit) env.play).dev.mCurrMagnitude = _ := playEffect_mCurrMagnitude
          rw [serve, Vibrator.perform_ff hled hs]
          split <;>
            simpa [after, Vibrator.refuse, Vibrator.performed, levelSet, hs] using hplay
  | setAmplitude amplitude =>
      have hset : (s.vib.ff.setAmplitude s.kernel amplitude.scaled
          env.gainWrite).2.1.mCurrMagnitude = _ := setAmplitude_mCurrMagnitude hfd
      simp only [serve, levelSet, Vibrator.setAmplitude, hled, Bool.false_eq_true, if_false]
      by_cases harg : (amplitude.notPositive || amplitude.aboveOne) = true
      · simp [harg, after, Vibrator.refuse]
      · by_cases hext : s.vib.ff.mInExternalControl = true
        · simp [harg, hext, after, Vibrator.refuse]
        · by_cases hret : (s.vib.ff.setAmplitude s.kernel amplitude.scaled
              env.gainWrite).1 = 0
          · rw [if_pos hret] at hset
            simp [harg, hext, hret, after, Vibrator.refuse, hset]
          · rw [if_neg hret] at hset
            simp [harg, hext, hret, after, Vibrator.refuse, hset]
  | setExternalControl enabled =>
      simp only [serve, Vibrator.setExternalControl, hled, Bool.false_eq_true, if_false,
        levelSet]
      split_ifs <;> rfl

/-- On a device that is open, the magnitude is the last level set. -/
structure LevelInv (h : List (Hal × (Call × CallEnv))) (s : Hal) : Prop where
  led : s.vib.ledVib.mDetected = false
  level : s.vib.ff.mVibraFd ≠ invalidValue → s.vib.ff.mCurrMagnitude = lastLevel h

theorem LevelInv.step {h : List (Hal × (Call × CallEnv))} {s t : Hal}
    {a : Call × CallEnv} (hi : LevelInv h s) (hs : step getEffectStream s a = some t) :
    LevelInv (h ++ [(s, a)]) t := by
  cases hs
  obtain ⟨hled, hfd, -⟩ := after_fd getEffectStream hi.led a.1 a.2
  refine ⟨hled, ?_⟩
  intro hopen
  rw [hfd] at hopen
  rw [after_mCurrMagnitude getEffectStream hi.led hopen, lastLevel_append_single,
    hi.level hopen]

/-! ## What an on uploads -/

theorem serve_on (getEffectStream : UInt32 → Option EffectStream) {s : Hal}
    (hled : s.vib.ledVib.mDetected = false) (timeoutMs : Int32) (callback : Bool)
    (env : CallEnv) :
    let r := s.serve getEffectStream (.on timeoutMs callback) env
    let p := s.vib.ff.on getEffectStream s.kernel timeoutMs env.play
    r.kernel = p.kernel ∧ r.vib.ff = p.dev ∧ (r.status = .ok ↔ p.ret = 0) := by
  intro r p
  have hr : r = _ := Vibrator.on_ff hled
  rw [hr]
  split
  · rename_i hret
    exact ⟨rfl, rfl, iff_of_false (by simp [Vibrator.refuse]) hret⟩
  · rename_i hret
    exact ⟨rfl, rfl, iff_of_true rfl (not_not.mp hret)⟩

/-- The effect loaded after an `on` is a plain vibration of the last level. -/
theorem LevelInv.loaded {h : List (Hal × (Call × CallEnv))} {s : Hal} (hi : LevelInv h s)
    {timeoutMs : Int32} {callback : Bool} {env : CallEnv}
    (hfd : s.vib.ff.mVibraFd ≠ invalidValue) (ht : timeoutMs ≠ 0) {x : FfEffect}
    (hx : x ∈ (s.serve getEffectStream (.on timeoutMs callback) env).kernel.effects)
    (hid : x.id = (s.serve getEffectStream (.on timeoutMs callback) env).vib.ff.mCurrAppId) :
    x.payload = .constant (lastLevel h) := by
  obtain ⟨hkernel, hdev, -⟩ := serve_on getEffectStream hi.led timeoutMs callback env
  rw [hkernel] at hx
  rw [hdev] at hid
  have hcase := on_cases getEffectStream s.kernel env.play hfd ht
  rw [hcase.loaded hx hid, ← hi.level hfd]
  simp [buildEffect, withId]

end Hal

end OplusHardware.QtiVibrator
