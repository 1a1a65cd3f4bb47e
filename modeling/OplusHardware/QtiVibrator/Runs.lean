import OplusHardware.Base.Path
import OplusHardware.QtiVibrator.Play

/-!
# QtiVibrator — the loaded effect over whole runs

The HAL's picture of the device is one integer, `mCurrAppId`. It agrees
with the device when exactly the effect it names is uploaded. Every call
keeps the agreement, except one in which an `EVIOCRMFF` fails: `errout`
forgets the id of an effect that is still loaded.
-/

namespace OplusHardware.QtiVibrator

open InputFFDevice OplusHardware.Base

variable {getEffectStream : UInt32 → Option EffectStream}

namespace InputFFDevice

variable {dev : InputFFDevice} {kernel : FfKernel} {effectId : Int32}
  {timeoutMs : UInt32} {playLengthMs : Option Int} {o : PlayOutcomes}

/-! ## One play -/

/-- **The uploaded set is `{mCurrAppId}`**, or empty when that is `-1`. -/
def Tracks (dev : InputFFDevice) (kernel : FfKernel) : Prop :=
  kernel.uploaded =
    if dev.mCurrAppId = invalidValue then ∅ else {dev.mCurrAppId}

instance : Decidable (dev.Tracks kernel) := inferInstanceAs (Decidable (_ = _))

/-- The effects on the device without the previous one: none, when the
HAL and the device agreed. -/
theorem Tracks.uploaded_withoutPrevious (h : dev.Tracks kernel) :
    (dev.withoutPrevious kernel).uploaded = ∅ := by
  rw [Tracks] at h
  by_cases hid : dev.mCurrAppId = invalidValue
  · rw [withoutPrevious, if_neg (not_not.mpr hid), h, if_pos hid]
  · rw [withoutPrevious, if_pos hid, FfKernel.uploaded_erase, h, if_neg hid]
    simp

/-- An `EVIOCRMFF` made by a request to start fails: the one of the
previous effect, or the one of the new effect whose start event was not
written. -/
def startRemovalFails (dev : InputFFDevice) (kernel : FfKernel) (o : PlayOutcomes) : Bool :=
  !dev.removalOk o ||
    (dev.removalOk o && dev.uploadOk kernel o && !o.start && !o.removeNew)

theorem tracks_invalid_iff {k : FfKernel} :
    (dev.withId invalidValue).Tracks k ↔ k.uploaded = ∅ := by
  simp [Tracks]

theorem accepted_ne_invalid {k : FfKernel} {id : Int16} (h : k.accepts id = true) :
    id ≠ invalidValue := by
  rintro rfl
  exact absurd (FfKernel.accepts_iff.mp h).1 (by decide)

/-- **A request to start keeps the agreement** exactly when no
`EVIOCRMFF` it makes fails. -/
theorem StartCase.tracks_iff {stream : Option EffectStream} {r : PlayResult}
    (h : StartCase dev kernel stream effectId timeoutMs playLengthMs o r)
    (ht : dev.Tracks kernel) :
    r.dev.Tracks r.kernel ↔ dev.startRemovalFails kernel o = false := by
  have hnone := ht.uploaded_withoutPrevious
  cases h with
  | removeFails hr =>
      -- the id is forgotten while its effect is still loaded
      have hid : dev.mCurrAppId ≠ invalidValue := by
        intro hid
        simp [removalOk, hid] at hr
      rw [Tracks, if_neg hid] at ht
      simp [tracks_invalid_iff, startRemovalFails, hr, ht]
  | uploadFails hr hu => simp [tracks_invalid_iff, startRemovalFails, hr, hu, hnone]
  | started hr hu ha hs =>
      simp [Tracks, startRemovalFails, hr, hs, FfKernel.uploaded_insert, hnone,
        accepted_ne_invalid ha]
  | startFails hr hu ha hs hc =>
      -- likewise the id of the new effect
      simp [tracks_invalid_iff, startRemovalFails, hr, hs, hc,
        uploadOk_of_accepts hu ha, FfKernel.uploaded_insert]
  | hidden hr hu ha hs hc =>
      simp [tracks_invalid_iff, startRemovalFails, hr, hc,
        FfKernel.uploaded_erase, FfKernel.uploaded_insert, hnone]

/-- `play` without a device. -/
theorem play_closed (hfd : dev.mVibraFd = invalidValue) :
    play getEffectStream dev kernel effectId timeoutMs playLengthMs o =
      ⟨0, dev, kernel, playLengthMs.map fun _ => 0⟩ := by
  rw [play, if_pos hfd]

/-- A request to stop, on an open device. -/
theorem play_stop (hfd : dev.mVibraFd ≠ invalidValue) :
    play getEffectStream dev kernel effectId 0 playLengthMs o =
      if dev.removalOk o then
        ⟨0, dev.withId invalidValue, dev.withoutPrevious kernel, playLengthMs⟩
      else ⟨-1, dev.withId invalidValue, kernel, playLengthMs⟩ := by
  rw [play, if_neg hfd, if_neg (by simp)]
  by_cases hid : dev.mCurrAppId = invalidValue
  · simp [hid, removalOk, withoutPrevious, withId_self hid]
  · cases hrm : o.removePrevious <;>
      simp [hid, hrm, removalOk, withoutPrevious, errout, withId]

/-- A request to stop keeps the agreement exactly when its `EVIOCRMFF`
succeeds. -/
theorem stop_tracks_iff (hfd : dev.mVibraFd ≠ invalidValue) (ht : dev.Tracks kernel) :
    let r := play getEffectStream dev kernel effectId 0 playLengthMs o
    r.dev.Tracks r.kernel ↔ dev.removalOk o = true := by
  intro r
  have hr : r = _ := play_stop hfd
  cases hrm : dev.removalOk o with
  | true =>
      rw [hrm, if_pos rfl] at hr
      simp [hr, tracks_invalid_iff, ht.uploaded_withoutPrevious]
  | false =>
      have hid : dev.mCurrAppId ≠ invalidValue := by
        intro hid
        simp [removalOk, hid] at hrm
      rw [hrm, if_neg (by simp)] at hr
      rw [Tracks, if_neg hid] at ht
      simp [hr, tracks_invalid_iff, ht]

/-- An `EVIOCRMFF` that `play` makes fails. -/
def removalFails (dev : InputFFDevice) (kernel : FfKernel) (timeoutMs : UInt32)
    (o : PlayOutcomes) : Bool :=
  if dev.mVibraFd = invalidValue then false
  else if timeoutMs ≠ 0 then dev.startRemovalFails kernel o
  else !dev.removalOk o

/-- **`play` keeps the agreement** exactly when no `EVIOCRMFF` it makes
fails. -/
theorem play_tracks_iff (ht : dev.Tracks kernel) :
    let r := play getEffectStream dev kernel effectId timeoutMs playLengthMs o
    r.dev.Tracks r.kernel ↔ dev.removalFails kernel timeoutMs o = false := by
  intro r
  by_cases hfd : dev.mVibraFd = invalidValue
  · have hr : r = _ := play_closed hfd
    simp [hr, removalFails, hfd, ht]
  · by_cases h0 : timeoutMs = 0
    · subst h0
      apply (stop_tracks_iff hfd ht).trans
      simp [removalFails, hfd]
    · rw [(play_cases hfd h0).tracks_iff ht]
      simp [removalFails, hfd, h0]

theorem StartCase.mVibraFd_eq {stream : Option EffectStream} {r : PlayResult}
    (h : StartCase dev kernel stream effectId timeoutMs playLengthMs o r) :
    r.dev.mVibraFd = dev.mVibraFd := by
  cases h <;> rfl

/-- `play` never closes or reopens the device, and without one it keeps
everything. -/
theorem play_fd (getEffectStream : UInt32 → Option EffectStream) (dev : InputFFDevice)
    (kernel : FfKernel) (effectId : Int32) (timeoutMs : UInt32)
    (playLengthMs : Option Int) (o : PlayOutcomes) :
    let r := play getEffectStream dev kernel effectId timeoutMs playLengthMs o
    r.dev.mVibraFd = dev.mVibraFd ∧
      (dev.mVibraFd = invalidValue → r.dev.mCurrAppId = dev.mCurrAppId) := by
  intro r
  by_cases hfd : dev.mVibraFd = invalidValue
  · have hr : r = _ := play_closed hfd
    simp [hr]
  · refine ⟨?_, fun h => absurd h hfd⟩
    by_cases h0 : timeoutMs = 0
    · subst h0
      have hr : r = _ := play_stop hfd
      rw [hr]
      split <;> rfl
    · exact (play_cases hfd h0).mVibraFd_eq

/-- A gain leaves the loaded effect alone. -/
theorem setAmplitude_effects (dev : InputFFDevice) (kernel : FfKernel) (amplitude : UInt8)
    (gainWrite : Bool) :
    let r := dev.setAmplitude kernel amplitude gainWrite
    r.2.1.mCurrAppId = dev.mCurrAppId ∧ r.2.1.mVibraFd = dev.mVibraFd ∧
      r.2.2.effects = kernel.effects := by
  simp only [setAmplitude]
  split
  · exact ⟨rfl, rfl, rfl⟩
  · cases gainWrite with
    | true => simp [FfKernel.writeGain, FfKernel.sizeofInputEvent]
    | false => exact ⟨rfl, rfl, rfl⟩

end InputFFDevice

/-! ## The HAL as a machine -/

/-- The service object and the device behind it. -/
structure Hal where
  vib : Vibrator
  kernel : FfKernel

/-- The client calls of `IVibrator` that reach the backend. -/
inductive Call where
  | on (timeoutMs : Int32) (callback : Bool)
  | off
  | perform (effect : Effect) (es : EffectStrength) (callback : Bool) (uninit : Int)
  | setAmplitude (amplitude : FloatArg)
  | setExternalControl (enabled : Bool)

namespace Hal

/-- The force-feedback backend after construction. -/
def boot (soc : Int) (socId : Option Int) (dir : Option (List InputNode)) : Hal :=
  ⟨⟨construct soc socId dir, LedVibratorDevice.construct false⟩, .empty⟩

/-- What a call answers in a state. -/
def serve (getEffectStream : UInt32 → Option EffectStream) (s : Hal) (c : Call)
    (env : CallEnv) : Reply :=
  match c with
  | .on timeoutMs callback => s.vib.on getEffectStream s.kernel timeoutMs callback env
  | .off => s.vib.off getEffectStream s.kernel env
  | .perform effect es callback uninit =>
      s.vib.perform getEffectStream s.kernel effect es callback uninit env
  | .setAmplitude amplitude => s.vib.setAmplitude s.kernel amplitude env
  | .setExternalControl enabled => s.vib.setExternalControl s.kernel enabled

/-- The state a reply leaves. -/
def after (r : Reply) : Hal := ⟨r.vib, r.kernel⟩

/-- One call, with the outcomes of its system calls. -/
def step (getEffectStream : UInt32 → Option EffectStream) (s : Hal)
    (a : Call × CallEnv) : Option Hal :=
  some (after (s.serve getEffectStream a.1 a.2))

/-- The HAL's picture of the device is right. -/
def Agrees (s : Hal) : Prop := s.vib.ff.Tracks s.kernel

instance (s : Hal) : Decidable s.Agrees :=
  inferInstanceAs (Decidable (s.vib.ff.Tracks s.kernel))

/-- The timeout a call passes to `play`, if it reaches it. -/
def request : Call → Option UInt32
  | .on timeoutMs _ => some timeoutMs.toUInt32
  | .off => some 0
  | .perform effect es _ _ =>
      if Vibrator.ffSupports effect es then some (invalidValue : Int32).toUInt32 else none
  | .setAmplitude _ => none
  | .setExternalControl _ => none

/-- **An `EVIOCRMFF` made by the call fails.** -/
def removalFails (s : Hal) (a : Call × CallEnv) : Bool :=
  match request a.1 with
  | none => false
  | some timeoutMs => s.vib.ff.removalFails s.kernel timeoutMs a.2.play

/-- **A call that reaches `play`** leaves what `play` left. `on` and `off`
keep the magnitude, `perform` selects one by the strength. -/
theorem after_play (getEffectStream : UInt32 → Option EffectStream) {s : Hal}
    (hled : s.vib.ledVib.mDetected = false) {c : Call} (env : CallEnv)
    {timeoutMs : UInt32} (hc : request c = some timeoutMs) :
    ∃ (m : Int16) (effectId : Int32) (playLengthMs : Option Int),
      let p := play getEffectStream (s.vib.ff.withMagnitude m) s.kernel effectId timeoutMs
        playLengthMs env.play
      after (s.serve getEffectStream c env) = ⟨{ s.vib with ff := p.dev }, p.kernel⟩ := by
  cases c with
  | on t callback =>
      cases hc
      refine ⟨s.vib.ff.mCurrMagnitude, invalidValue, none, ?_⟩
      intro p
      have hp : s.vib.ff.on getEffectStream s.kernel t env.play = p := rfl
      rw [serve, Vibrator.on_ff hled, hp]
      by_cases hz : p.ret = 0 <;> simp [after, hz, Vibrator.refuse]
  | off =>
      cases hc
      refine ⟨s.vib.ff.mCurrMagnitude, invalidValue, none, ?_⟩
      intro p
      have hp : s.vib.ff.off getEffectStream s.kernel env.play = p := rfl
      simp [serve, Vibrator.off, hled, hp, after, Vibrator.refuse]
  | perform effect es callback uninit =>
      simp only [request, Option.ite_none_right_eq_some, Option.some.injEq] at hc
      obtain ⟨hs, rfl⟩ := hc
      obtain ⟨m, hm⟩ : ∃ m : Int16,
          s.vib.ff.playEffect getEffectStream s.kernel effect.value es (some uninit)
              env.play =
            play getEffectStream (s.vib.ff.withMagnitude m) s.kernel effect.value
              (invalidValue : Int32).toUInt32 (some uninit) env.play :=
        Vibrator.playEffect_eq_play hs
      refine ⟨m, effect.value, some uninit, ?_⟩
      intro p
      rw [serve, Vibrator.perform_ff hled hs, hm]
      by_cases hz : p.ret = 0 <;> simp [p, after, hz, Vibrator.refuse, Vibrator.performed]
  | setAmplitude amplitude => cases hc
  | setExternalControl enabled => cases hc

/-- A call that does not reach `play` leaves the loaded effect alone. -/
theorem after_other (getEffectStream : UInt32 → Option EffectStream) {s : Hal}
    (hled : s.vib.ledVib.mDetected = false) {c : Call} (env : CallEnv)
    (hc : request c = none) :
    let t := after (s.serve getEffectStream c env)
    t.vib.ff.mCurrAppId = s.vib.ff.mCurrAppId ∧ t.vib.ff.mVibraFd = s.vib.ff.mVibraFd ∧
      t.vib.ledVib = s.vib.ledVib ∧ t.kernel.uploaded = s.kernel.uploaded := by
  cases c with
  | on => simp [request] at hc
  | off => simp [request] at hc
  | perform effect es callback uninit =>
      simp only [request, ite_eq_right_iff, reduceCtorEq, imp_false] at hc
      simp [serve, Vibrator.perform, hled, hc, after, Vibrator.refuse]
  | setAmplitude amplitude =>
      obtain ⟨hid, hfd, heffects⟩ := setAmplitude_effects s.vib.ff s.kernel
        amplitude.scaled env.gainWrite
      simp only [serve, Vibrator.setAmplitude, hled, Bool.false_eq_true, if_false]
      split_ifs
      · exact ⟨rfl, rfl, rfl, rfl⟩
      · exact ⟨rfl, rfl, rfl, rfl⟩
      all_goals
        refine ⟨hid, hfd, rfl, ?_⟩
        simp only [after, Vibrator.refuse, FfKernel.uploaded, FfKernel.ids, heffects]
  | setExternalControl enabled =>
      simp only [serve, Vibrator.setExternalControl, hled, Bool.false_eq_true, if_false]
      split_ifs <;> simp [after, Vibrator.refuse]

/-- Every call keeps the backend chosen at construction and its file
descriptor, and without one it keeps `mCurrAppId`. -/
theorem after_fd (getEffectStream : UInt32 → Option EffectStream) {s : Hal}
    (hled : s.vib.ledVib.mDetected = false) (c : Call) (env : CallEnv) :
    let t := after (s.serve getEffectStream c env)
    t.vib.ledVib.mDetected = false ∧ t.vib.ff.mVibraFd = s.vib.ff.mVibraFd ∧
      (s.vib.ff.mVibraFd = invalidValue →
        t.vib.ff.mCurrAppId = s.vib.ff.mCurrAppId) := by
  cases hc : request c with
  | none =>
      obtain ⟨hid, hfd, hv, -⟩ := after_other getEffectStream hled env hc
      exact ⟨by rw [hv, hled], hfd, fun _ => hid⟩
  | some timeoutMs =>
      obtain ⟨m, effectId, playLengthMs, hplay⟩ := after_play getEffectStream hled env hc
      rw [hplay]
      exact ⟨hled, play_fd getEffectStream (s.vib.ff.withMagnitude m) ..⟩

/-- **One call keeps the agreement exactly when no `EVIOCRMFF` it makes
fails.** -/
theorem agrees_after_iff {s : Hal} (hled : s.vib.ledVib.mDetected = false)
    (ha : s.Agrees) (c : Call) (env : CallEnv) :
    (after (s.serve getEffectStream c env)).Agrees ↔ s.removalFails (c, env) = false := by
  cases hc : request c with
  | none =>
      obtain ⟨hid, -, -, hk⟩ := after_other getEffectStream hled env hc
      rw [Agrees, Tracks] at ha
      simp [removalFails, hc, Agrees, Tracks, hid, hk, ha]
  | some timeoutMs =>
      obtain ⟨m, effectId, playLengthMs, hplay⟩ := after_play getEffectStream hled env hc
      have ha' : (s.vib.ff.withMagnitude m).Tracks s.kernel := ha
      rw [Agrees, hplay, removalFails, hc]
      exact play_tracks_iff ha'

/-- The scan sets the descriptor and the supported features, and keeps the
other members. -/
theorem probe_keeps {soc : Int} {socId : Option Int} {node : InputNode}
    {d : InputFFDevice} (h : probe soc socId node = some d) :
    d.mCurrAppId = invalidValue ∧ d.mCurrMagnitude = 0x7fff := by
  rw [probe] at h
  split at h
  · cases h
  · simp only [Option.bind_eq_bind, Option.bind_eq_some_iff] at h
    obtain ⟨fd, -, name, -, h⟩ := h
    split at h
    · cases h
    · obtain ⟨bits, -, h⟩ := Option.bind_eq_some_iff.mp h
      split at h
      · cases h
        exact ⟨rfl, rfl⟩
      · cases h

/-- Whatever the constructor finds, nothing is loaded and the magnitude is
the strongest. -/
theorem construct_keeps (soc : Int) (socId : Option Int) (dir : Option (List InputNode)) :
    (construct soc socId dir).mCurrAppId = invalidValue ∧
      (construct soc socId dir).mCurrMagnitude = 0x7fff := by
  cases dir with
  | none => exact ⟨rfl, rfl⟩
  | some entries =>
      rw [construct]
      cases hfind : entries.findSome? (probe soc socId) with
      | none => exact ⟨rfl, rfl⟩
      | some d =>
          obtain ⟨node, -, hnode⟩ := List.exists_of_findSome?_eq_some hfind
          exact probe_keeps hnode

theorem construct_mCurrAppId (soc : Int) (socId : Option Int)
    (dir : Option (List InputNode)) :
    (construct soc socId dir).mCurrAppId = invalidValue :=
  (construct_keeps soc socId dir).1

/-- What holds of the force-feedback backend as long as no `EVIOCRMFF`
fails: the agreement, on a device that was either found at construction
or never loads anything. -/
structure Inv (s : Hal) : Prop where
  led : s.vib.ledVib.mDetected = false
  agrees : s.Agrees
  closed : s.vib.ff.mVibraFd = invalidValue → s.vib.ff.mCurrAppId = invalidValue

theorem inv_boot (soc : Int) (socId : Option Int) (dir : Option (List InputNode)) :
    (boot soc socId dir).Inv where
  led := rfl
  agrees := by simp [boot, Agrees, Tracks, construct_mCurrAppId]
  closed := fun _ => construct_mCurrAppId soc socId dir

theorem Inv.step {s t : Hal} {a : Call × CallEnv} (hi : s.Inv)
    (hok : s.removalFails a = false) (hs : step getEffectStream s a = some t) : t.Inv := by
  cases hs
  obtain ⟨hled, hfd, hid⟩ := after_fd getEffectStream hi.led a.1 a.2
  refine ⟨hled, (agrees_after_iff hi.led hi.agrees a.1 a.2).mpr hok, ?_⟩
  intro hclosed
  rw [hfd] at hclosed
  rw [hid hclosed, hi.closed hclosed]

/-! ## Whole runs -/

theorem Inv.card_le {s : Hal} (hi : s.Inv) : s.kernel.uploaded.card ≤ 1 := by
  rw [hi.agrees]
  split <;> simp

/-- An `off` that answers ok leaves nothing loaded. -/
theorem Inv.off_unloads {s : Hal} (hi : s.Inv) (env : CallEnv)
    (hok : (s.serve getEffectStream .off env).status = .ok) :
    (s.serve getEffectStream .off env).kernel.uploaded = ∅ := by
  have hag : s.vib.ff.Tracks s.kernel := hi.agrees
  by_cases hfd : s.vib.ff.mVibraFd = invalidValue
  · have hp : s.vib.ff.off getEffectStream s.kernel env.play = _ := play_closed hfd
    rw [Tracks, if_pos (hi.closed hfd)] at hag
    simpa [serve, Vibrator.off, hi.led, Vibrator.refuse, hp] using hag
  · have hp : s.vib.ff.off getEffectStream s.kernel env.play = _ := play_stop hfd
    cases hrm : s.vib.ff.removalOk env.play with
    | true =>
        simpa [serve, Vibrator.off, hi.led, Vibrator.refuse, hp, hrm]
          using hag.uploaded_withoutPrevious
    | false =>
        simp [serve, Vibrator.off, hi.led, Vibrator.refuse, hp, hrm] at hok

/-- **The loaded effect is tracked over whole runs.** From the
constructor's state, in every run in which no `EVIOCRMFF` fails, the
uploaded set is `{mCurrAppId}` (empty for `-1`) after every call, so at
most one effect is loaded; and an `off` that answers ok leaves none
loaded and none playing. -/
theorem loaded_effect_tracked (getEffectStream : UInt32 → Option EffectStream)
    (soc : Int) (socId : Option Int) (dir : Option (List InputNode))
    (h : List (Hal × (Call × CallEnv))) (t : Hal)
    (hp : Path (Hal.step getEffectStream) (boot soc socId dir) h t)
    (hok : ∀ x ∈ h, x.1.removalFails x.2 = false) :
    t.Agrees ∧ t.kernel.uploaded.card ≤ 1 ∧
      ∀ env, (t.serve getEffectStream .off env).status = .ok →
        (t.serve getEffectStream .off env).kernel.uploaded = ∅ ∧
        (t.serve getEffectStream .off env).kernel.playing = [] := by
  have hi : t.Inv := hp.inv Inv (fun s a => s.removalFails a = false)
    (fun _ _ _ hi hok hs => hi.step hok hs) (inv_boot soc socId dir) hok
  refine ⟨hi.agrees, hi.card_le, fun env hst => ?_⟩
  have hempty := hi.off_unloads env hst
  exact ⟨hempty, FfKernel.playing_of_uploaded_empty hempty⟩

/-- A constructor that finds one haptics device. -/
def bootOneDevice : Hal :=
  boot (-1) none (some [⟨"event0", some 3, some "qti-haptics",
    some ⟨true, true, true, true⟩⟩])

/-- No `EVIOCRMFF` succeeds. -/
def removalsFail : CallEnv :=
  ⟨⟨false, some ⟨0, 0, 0⟩, true, false⟩, true, []⟩

/-- The second `on` removes the effect of the first, the `off` that of the
second. -/
theorem loaded_effect_tracked_on_on_off :
    ∃ r ∈ follow (Hal.step fun _ => none) bootOneDevice
        [(.on 200 true, Vibrator.noFailures), (.on 500 false, Vibrator.noFailures)],
      r.2.kernel.uploaded.card ≤ 1 ∧ r.2.vib.ff.mCurrAppId = 0 ∧
      (r.2.serve (fun _ => none) .off Vibrator.noFailures).kernel.uploaded = ∅ ∧
      (r.2.serve (fun _ => none) .off Vibrator.noFailures).kernel.playing = [] := by
  have hrun : ∃ r ∈ follow (Hal.step fun _ => none) bootOneDevice
      [(.on 200 true, Vibrator.noFailures), (.on 500 false, Vibrator.noFailures)],
      (∀ x ∈ r.1, x.1.removalFails x.2 = false) ∧ r.2.vib.ff.mCurrAppId = 0 ∧
        (r.2.serve (fun _ => none) .off Vibrator.noFailures).status = .ok := by
    refine ⟨_, rfl, ?_⟩
    decide
  obtain ⟨r, hr, hok, hid, hoff⟩ := hrun
  obtain ⟨-, hcard, hunload⟩ := loaded_effect_tracked (fun _ => none) (-1) none _ r.1 r.2
    (path_of_follow hr) hok
  exact ⟨r, hr, hcard, hid, hunload Vibrator.noFailures hoff⟩

/-- **A leaked effect.** `on`, then an `on` whose `EVIOCRMFF` fails, then
`off`: the last call answers ok while effect 0 is still loaded and
playing, and no later call can name it. -/
theorem failed_removal_leaks :
    ∃ r, follow (Hal.step fun _ => none) bootOneDevice
        [(.on 200 true, Vibrator.noFailures), (.on 200 true, removalsFail)] = some r ∧
      ¬ r.2.Agrees ∧
      (r.2.serve (fun _ => none) .off Vibrator.noFailures).status = .ok ∧
      (r.2.serve (fun _ => none) .off Vibrator.noFailures).kernel.uploaded = {0} ∧
      (r.2.serve (fun _ => none) .off Vibrator.noFailures).kernel.playing = [0] := by
  refine ⟨_, rfl, ?_⟩
  decide

end Hal

end OplusHardware.QtiVibrator
