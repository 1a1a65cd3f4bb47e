import OplusHardware.QtiVibrator.EffectLoader
import OplusHardware.QtiVibrator.Level

/-!
# QtiVibrator — how long a vibration is said to last

Two durations leave the HAL: the play length of an effect stream, which
the framework gets back from `perform`, and the timeout of `on`, which
goes both into the uploaded effect and into the sleep of the completion
thread. Each is computed in a machine word, and each is right as long as
that word does not wrap around.
-/

namespace OplusHardware.QtiVibrator

open OplusHardware.Base InputFFDevice

/-- Dividing a remainder instead of the number itself gives the same only
when nothing was taken away: a multiple of `m` is at least one more unit
of a divisor up to `m`. -/
theorem mod_div_eq_div_iff {n m d : Nat} (hd : 0 < d) (hdm : d ≤ m) :
    n % m / d = n / d ↔ n < m := by
  constructor
  · intro h
    by_contra hge
    have hrest : n % m + d ≤ n := by
      have hsum : m * (n / m) + n % m = n := Nat.div_add_mod n m
      have hone : m * 1 ≤ m * (n / m) :=
        Nat.mul_le_mul_left m (Nat.div_pos (not_lt.mp hge) (by omega))
      omega
    have hmore : n % m / d + 1 ≤ n / d := by
      rw [← Nat.add_div_right _ hd]
      exact Nat.div_le_div_right hrest
    omega
  · intro h
    rw [Nat.mod_eq_of_lt h]

namespace EffectStream

/-- **The play length of a stream**, in unbounded integers. -/
def lengthMs (s : EffectStream) : Nat :=
  s.length.toNat * 1000 / s.playRateHz.toNat + 1

/-- The play length fits the `int32_t` it is returned in. -/
def Fits (s : EffectStream) : Prop := s.lengthMs < 2 ^ 31

/-- **The product is taken without a wrap-around.** -/
def NoWrap (s : EffectStream) : Prop := s.length.toNat * 1000 < 2 ^ 32

instance (s : EffectStream) : Decidable s.Fits := inferInstanceAs (Decidable (_ < _))

instance (s : EffectStream) : Decidable s.NoWrap := inferInstanceAs (Decidable (_ < _))

variable {s : EffectStream}

theorem playRateHz_pos (h : s.playRateHz ≠ 0) : 0 < s.playRateHz.toNat := by
  rw [Nat.pos_iff_ne_zero]
  intro h0
  exact h (UInt32.toNat_inj.mp h0)

theorem toNat_product (s : EffectStream) :
    (s.length * 1000).toNat = s.length.toNat * 1000 % 2 ^ 32 :=
  UInt32.toNat_mul ..

/-- What `play` computes for a stream, before the last addition wraps. -/
theorem toNat_computed (s : EffectStream) :
    (s.length * 1000 / s.playRateHz + 1).toNat =
      (s.length.toNat * 1000 % 2 ^ 32 / s.playRateHz.toNat + 1) % 2 ^ 32 := by
  rw [UInt32.toNat_add, UInt32.toNat_div, toNat_product]
  rfl

/-- **The computed length of a stream that fits is right exactly when the
product does not wrap.** -/
theorem computed_eq_iff (hrate : s.playRateHz ≠ 0) (hfits : s.Fits) :
    (s.length * 1000 / s.playRateHz + 1).toNat = s.lengthMs ↔ s.NoWrap := by
  have hd := playRateHz_pos hrate
  have hdm : s.playRateHz.toNat ≤ 2 ^ 32 := (UInt32.toNat_lt _).le
  have hle : s.length.toNat * 1000 % 2 ^ 32 / s.playRateHz.toNat ≤
      s.length.toNat * 1000 / s.playRateHz.toNat :=
    Nat.div_le_div_right (Nat.mod_le ..)
  have hlt : s.length.toNat * 1000 / s.playRateHz.toNat + 1 < 2 ^ 31 := hfits
  rw [toNat_computed, lengthMs, Nat.mod_eq_of_lt (by omega), Nat.add_right_cancel_iff]
  exact mod_div_eq_div_iff hd hdm

end EffectStream

namespace InputFFDevice

variable {getEffectStream : UInt32 → Option EffectStream} {dev : InputFFDevice}
  {kernel : FfKernel} {effectId : Int32} {timeoutMs : UInt32} {uninit : Int}
  {o : PlayOutcomes} {s : EffectStream}

/-! ## The length of a stream -/

theorem effectLengthMs_stream (h : s.playRateHz ≠ 0) (r : UploadReply) :
    effectLengthMs (some s) r = (s.length * 1000 / s.playRateHz + 1).toNat := by
  rw [effectLengthMs, if_pos h]

/-- A request that succeeds stores the length of its effect. -/
theorem StartCase.stored {stream : Option EffectStream} {p : PlayResult}
    (h : StartCase dev kernel stream effectId timeoutMs (some uninit) o p)
    (hid : effectId ≠ invalidValue) (hret : p.ret = 0) :
    ∃ r, p.playLengthMs = some (effectLengthMs stream r) := by
  cases h with
  | removeFails hr => cases hret
  | uploadFails hr hu => cases hret
  | @started hr r hu ha hs => exact ⟨r, by rw [storedLength, if_pos hid]; rfl⟩
  | startFails hr hu ha hs hc => cases hret
  | @hidden hr r hu ha hs hc => exact ⟨r, by rw [storedLength, if_pos hid]; rfl⟩

/-- **What `play` stores for a stream.** -/
theorem play_stored (hrate : s.playRateHz ≠ 0) (hfd : dev.mVibraFd ≠ invalidValue)
    (ht : timeoutMs ≠ 0) (hid : effectId ≠ invalidValue)
    (hs : getEffectStream effectId.toUInt32 = some s)
    (hret : (play getEffectStream dev kernel effectId timeoutMs (some uninit) o).ret = 0) :
    (play getEffectStream dev kernel effectId timeoutMs (some uninit) o).playLengthMs =
      some ((s.length * 1000 / s.playRateHz + 1).toNat : Int) := by
  have hcase : StartCase dev kernel _ effectId timeoutMs (some uninit) o
      (play getEffectStream dev kernel effectId timeoutMs (some uninit) o) :=
    play_cases hfd ht
  obtain ⟨r, hr⟩ := hcase.stored hid hret
  rw [hr, hs, effectLengthMs_stream hrate]

end InputFFDevice

namespace Vibrator

variable {getEffectStream : UInt32 → Option EffectStream} {v : Vibrator}
  {kernel : FfKernel} {effect : Effect} {es : EffectStrength} {callback : Bool}
  {uninit : Int} {env : CallEnv} {s : EffectStream}

/-- `perform` lets nothing through that it does not support. -/
theorem ffSupports_of_ok (hled : v.ledVib.mDetected = false)
    (hok : (v.perform getEffectStream kernel effect es callback uninit env).status = .ok) :
    ffSupports effect es = true := by
  by_contra hs
  rw [Bool.not_eq_true] at hs
  simp [Vibrator.perform, hled, hs, refuse] at hok

/-- The effects that are let through are none of the invalid ids. -/
theorem ne_invalid_of_ffSupports (h : ffSupports effect es = true) :
    effect.value ≠ invalidValue := by
  intro hid
  have hrange : ¬ effect.value < Effect.click.value := by
    simp only [ffSupports, Bool.and_eq_true, Bool.not_eq_true', Bool.or_eq_false_iff,
      decide_eq_false_iff_not] at h
    exact h.1.1
  rw [hid] at hrange
  exact hrange (by decide)

/-- **What `perform` returns for a stream.** -/
theorem perform_out (hrate : s.playRateHz ≠ 0) (hled : v.ledVib.mDetected = false)
    (hfd : v.ff.mVibraFd ≠ invalidValue)
    (hs : getEffectStream effect.value.toUInt32 = some s)
    (hok : (v.perform getEffectStream kernel effect es callback uninit env).status = .ok) :
    (v.perform getEffectStream kernel effect es callback uninit env).out =
      some (Int32.ofInt (s.length * 1000 / s.playRateHz + 1).toNat) := by
  have hsup := ffSupports_of_ok hled hok
  obtain ⟨m, hm⟩ : ∃ m : Int16,
      v.ff.playEffect getEffectStream kernel effect.value es (some uninit) env.play =
        play getEffectStream (v.ff.withMagnitude m) kernel effect.value
          (invalidValue : Int32).toUInt32 (some uninit) env.play := playEffect_eq_play hsup
  have hperform : v.perform getEffectStream kernel effect es callback uninit env = _ :=
    perform_ff hled hsup
  by_cases hret : (v.ff.playEffect getEffectStream kernel effect.value es (some uninit)
      env.play).ret = 0
  · rw [if_neg (not_not.mpr hret)] at hperform
    rw [hm] at hperform hret
    have hopen : (v.ff.withMagnitude m).mVibraFd ≠ invalidValue := hfd
    have htimeout : (invalidValue : Int32).toUInt32 ≠ 0 := by decide
    have hstored :=
      play_stored hrate hopen htimeout (ne_invalid_of_ffSupports hsup) hs hret
    rw [hperform, performed, hstored]
    rfl
  · rw [if_pos hret] at hperform
    rw [hperform] at hok
    cases hok

/-- The returned `int32_t` is the length exactly when the stored `long` is. -/
theorem ofInt_toInt_eq_iff {n m : Nat} (hn : n < 2 ^ 32) (hm : m < 2 ^ 31) :
    (Int32.ofInt n).toInt = m ↔ n = m := by
  rw [Int32.toInt_ofInt, show Int32.size = 2 ^ 32 from rfl, Int.bmod_def]
  omega

/-- **When the play length is reported right.** For every stream with a
rate, both where `play` stores it and where `perform` returns it: a length
that fits an `int32_t` is the true one if and only if the product with
1000 does not wrap around in 32 bits (or the length does not fit). -/
theorem reports_length_iff (getEffectStream : UInt32 → Option EffectStream)
    (s : EffectStream) (hrate : s.playRateHz ≠ 0) :
    (∀ (dev : InputFFDevice) (kernel : FfKernel) (effectId : Int32) (timeoutMs : UInt32)
        (uninit : Int) (o : PlayOutcomes),
      dev.mVibraFd ≠ invalidValue → timeoutMs ≠ 0 → effectId ≠ invalidValue →
      getEffectStream effectId.toUInt32 = some s →
      (play getEffectStream dev kernel effectId timeoutMs (some uninit) o).ret = 0 →
      ((s.Fits →
          (play getEffectStream dev kernel effectId timeoutMs (some uninit) o).playLengthMs =
            some (s.lengthMs : Int)) ↔
        s.NoWrap ∨ ¬ s.Fits)) ∧
    (∀ (v : Vibrator) (kernel : FfKernel) (effect : Effect) (es : EffectStrength)
        (callback : Bool) (uninit : Int) (env : CallEnv),
      v.ledVib.mDetected = false → v.ff.mVibraFd ≠ invalidValue →
      getEffectStream effect.value.toUInt32 = some s →
      (v.perform getEffectStream kernel effect es callback uninit env).status = .ok →
      ((s.Fits →
          ∃ length, (v.perform getEffectStream kernel effect es callback uninit env).out =
              some length ∧
            length.toInt = s.lengthMs) ↔
        s.NoWrap ∨ ¬ s.Fits)) := by
  have hguard : ∀ {P : Prop}, (s.Fits → (P ↔ s.NoWrap)) →
      ((s.Fits → P) ↔ s.NoWrap ∨ ¬ s.Fits) := by
    intro P hP
    by_cases hfits : s.Fits
    · simp [hfits, hP hfits]
    · simp [hfits]
  constructor
  · intro dev kernel effectId timeoutMs uninit o hfd ht hid hs hret
    refine hguard fun hfits => ?_
    rw [play_stored hrate hfd ht hid hs hret, ← EffectStream.computed_eq_iff hrate hfits,
      Option.some_inj, Int.ofNat_inj]
  · intro v kernel effect es callback uninit env hled hfd hs hok
    refine hguard fun hfits => ?_
    rw [perform_out hrate hled hfd hs hok, ← EffectStream.computed_eq_iff hrate hfits,
      ← ofInt_toInt_eq_iff (UInt32.toNat_lt _) hfits]
    simp only [Option.some_inj, exists_eq_left']

/-- A stream of a tenth of a second. -/
theorem reports_length_iff_short :
    (play (fun _ => some ⟨0, 2, 20, [1, 2]⟩) openDevice.ff .empty 0 200 (some 0)
      noFailures.play).playLengthMs = some 101 :=
  ((reports_length_iff (fun _ => some ⟨0, 2, 20, [1, 2]⟩) ⟨0, 2, 20, [1, 2]⟩
    (by decide)).1 openDevice.ff .empty 0 200 0 noFailures.play (by decide) (by decide)
    (by decide) rfl (by decide)).mpr (.inl (by decide)) (by decide)

/-! ### A waveform of three minutes -/

/-- A configuration with one effect, the text and what it parses to. -/
def longEffect : List UInt8 :=
  VibrationEffectLoader.asciiBytes ("\x7b\"9999\": \x7b\"def_style\": [" ++
    "\x7b\"effect_file\": \"a.bin\", \"effect_id\": 0, \"play_rate_hz\": 24000\x7d" ++
    "]\x7d\x7d")

def longEffectRoot : Json :=
  VibrationEffectLoader.configOf [VibrationEffectLoader.effectNode "a.bin" 0 24000]

/-- A file of so many bytes. -/
def longFile : FileSystem :=
  VibrationEffectLoader.oneFile "a.bin" (by decide) (List.replicate 4294968 0)

def longStream : EffectStream := ⟨0, 4294968, 24000, List.replicate 4294968 0⟩

/-- An element whose file is loaded is usable. -/
theorem usable_effectNode {load : String → Option (UInt32 × List Int8)} {file : String}
    {effectId playRateHz : Int} {s : EffectStream}
    (hid : (Json.int effectId).uint? = some s.effectId)
    (hrate : (Json.int playRateHz).uint? = some s.playRateHz)
    (hload : load file = some (s.length, s.data)) :
    usable load (VibrationEffectLoader.effectNode file effectId playRateHz) = some s := by
  show ((Json.int effectId).uint?.bind fun id => (Json.int playRateHz).uint?.bind fun rate =>
    (load file).bind fun r => some (⟨id, r.1, rate, r.2⟩ : EffectStream)) = _
  rw [hid, hrate, hload]
  rfl

theorem usable_longFile :
    usable (loadEffectDataFromFile longFile)
      (VibrationEffectLoader.effectNode "a.bin" 0 24000) = some longStream := by
  have hregular : VibrationEffectLoader.Regular longFile :=
    VibrationEffectLoader.regular_oneFile (by rw [List.length_replicate]; decide)
  have hload : loadEffectDataFromFile longFile "a.bin" =
      some (4294968, List.replicate 4294968 0) := by
    rw [VibrationEffectLoader.loadEffectDataFromFile_regular hregular]
    show some (UInt32.ofNat (List.replicate 4294968 (0 : Int8)).length, _) = _
    rw [List.length_replicate]
    rfl
  exact usable_effectNode rfl rfl hload

theorem loads_longStream :
    ∃ loader, VibrationEffectLoader.construct longFile (fun _ => some longEffectRoot)
        (some longEffect) = .ok loader ∧
      QtiVibrator.getEffectStream loader [] 0 = some longStream := by
  have hharmless : ∀ node ∈ chosenNodes ((some longEffect).bind fun _ =>
      some longEffectRoot), Harmless node := by decide
  obtain ⟨loader, hloader, hlookup⟩ :=
    @VibrationEffectLoader.construct_harmless longFile _ _ hharmless
  have hfound : loader.getEffectStream 0 = some longStream := by
    rw [hlookup 0]
    show (List.filterMap (usable (loadEffectDataFromFile longFile))
      [VibrationEffectLoader.effectNode "a.bin" 0 24000]).find? (·.effectId = 0) = _
    rw [List.filterMap_cons_some usable_longFile]
    rfl
  refine ⟨loader, hloader, ?_⟩
  rw [QtiVibrator.getEffectStream, hfound]

/-- **The loader produces a stream whose length is reported as 1 ms.** It
takes 178958 ms, which fits. -/
theorem long_effect_reported_short :
    ∃ loader, VibrationEffectLoader.construct longFile (fun _ => some longEffectRoot)
        (some longEffect) = .ok loader ∧
      QtiVibrator.getEffectStream loader [] 0 = some longStream ∧
      longStream.lengthMs = 178958 ∧
      (openDevice.perform (QtiVibrator.getEffectStream loader []) .empty .click .strong
        false 0 noFailures).status = .ok ∧
      (openDevice.perform (QtiVibrator.getEffectStream loader []) .empty .click .strong
        false 0 noFailures).out = some 1 := by
  obtain ⟨loader, hloader, hs⟩ := loads_longStream
  have hrate : longStream.playRateHz ≠ 0 := by decide
  have hok : (openDevice.perform (QtiVibrator.getEffectStream loader []) .empty .click
      .strong false 0 noFailures).status = .ok := rfl
  refine ⟨loader, hloader, hs, by decide, hok, ?_⟩
  rw [perform_out hrate rfl (by decide) hs hok]
  decide

end Vibrator

/-! ## The timeout of a plain vibration -/

namespace InputFFDevice

variable {getEffectStream : UInt32 → Option EffectStream} {dev : InputFFDevice}
  {kernel : FfKernel} {effectId : Int32} {timeoutMs : UInt32}
  {playLengthMs : Option Int} {o : PlayOutcomes}

/-- The effect of a plain vibration, with the timeout cut to 16 bits. -/
theorem buildEffect_constant (stream : Option EffectStream) :
    buildEffect dev stream invalidValue timeoutMs =
      ⟨dev.mCurrAppId, timeoutMs.toUInt16, 0, .constant dev.mCurrMagnitude⟩ := by
  simp [buildEffect]

end InputFFDevice

namespace Vibrator

variable {getEffectStream : UInt32 → Option EffectStream} {v : Vibrator}
  {kernel : FfKernel} {callback : Bool} {env : CallEnv} {timeoutMs : Int32}

/-- **The reply honours the requested duration**: one effect was uploaded,
a constant one that lasts so many milliseconds, and a callback is called so
many milliseconds later. -/
def HonoursDuration (getEffectStream : UInt32 → Option EffectStream) (v : Vibrator)
    (kernel : FfKernel) (timeoutMs : Int32) (callback : Bool) (env : CallEnv) : Prop :=
  (∃ e level, (v.on getEffectStream kernel timeoutMs callback env).kernel.taken =
      kernel.taken ++ [e] ∧
    e.payload = .constant level ∧ (e.replayLength.toNat : Int) = timeoutMs.toInt) ∧
  (callback = true →
    ∃ thread, (v.on getEffectStream kernel timeoutMs callback env).thread = some thread ∧
      (thread.sleepUs.toNat : Int) = 1000 * timeoutMs.toInt)

theorem toNat_toUInt32_of_pos (ht : 0 < timeoutMs) :
    (timeoutMs.toUInt32.toNat : Int) = timeoutMs.toInt := by
  have hpos : (0 : Int) < timeoutMs.toInt := Int32.lt_iff_toInt_lt.mp ht
  rw [Int32.toNat_toUInt32_of_le (Int32.le_iff_toInt_le.mpr hpos.le)]
  exact Int.toNat_of_nonneg hpos.le

/-- The 16 bits of the kernel's field hold the timeout up to 65535. -/
theorem replayLength_eq_iff (ht : 0 < timeoutMs) :
    (timeoutMs.toUInt32.toUInt16.toNat : Int) = timeoutMs.toInt ↔
      timeoutMs.toInt ≤ 65535 := by
  rw [UInt32.toNat_toUInt16, ← toNat_toUInt32_of_pos ht]
  omega

/-- The 32 bits of the sleep hold 1000 times as much. -/
theorem sleepUs_eq (ht : 0 < timeoutMs) (hle : timeoutMs.toInt ≤ 4294967) :
    (((timeoutMs * 1000).toUInt32.toNat : Nat) : Int) = 1000 * timeoutMs.toInt := by
  have hnat := toNat_toUInt32_of_pos ht
  rw [Int32.toUInt32_mul, UInt32.toNat_mul]
  show ((timeoutMs.toUInt32.toNat * 1000 % 2 ^ 32 : Nat) : Int) = _
  omega

/-- **When the requested duration is honoured.** For every positive timeout
that `on` answers ok for, with the device open: exactly up to 65535 ms. -/
theorem honoursDuration_iff (getEffectStream : UInt32 → Option EffectStream)
    (v : Vibrator) (kernel : FfKernel) (timeoutMs : Int32) (callback : Bool)
    (env : CallEnv) (hled : v.ledVib.mDetected = false)
    (hfd : v.ff.mVibraFd ≠ invalidValue) (ht : 0 < timeoutMs)
    (hok : (v.on getEffectStream kernel timeoutMs callback env).status = .ok) :
    HonoursDuration getEffectStream v kernel timeoutMs callback env ↔
      timeoutMs.toInt ≤ 65535 := by
  have hne : timeoutMs ≠ 0 := (Int32.ne_of_lt ht).symm
  have hon : v.on getEffectStream kernel timeoutMs callback env = _ := on_ff hled
  have hcase := on_cases getEffectStream kernel env.play hfd hne
  by_cases hret : (v.ff.on getEffectStream kernel timeoutMs env.play).ret = 0
  · rw [if_neg (not_not.mpr hret)] at hon
    have htaken : (v.on getEffectStream kernel timeoutMs callback env).kernel.taken =
        kernel.taken ++ [⟨invalidValue, timeoutMs.toUInt32.toUInt16, 0,
          .constant v.ff.mCurrMagnitude⟩] := by
      rw [hon]
      show (v.ff.on getEffectStream kernel timeoutMs env.play).kernel.taken = _
      rw [InputFFDevice.on, play_taken,
        hcase.uploads_eq hfd (toUInt32_ne_zero hne) hret, buildEffect_constant]
      rfl
    constructor
    · rintro ⟨⟨e, level, he, -, hlength⟩, -⟩
      rw [htaken, List.append_cancel_left_eq, List.cons.injEq] at he
      rw [← he.1] at hlength
      exact (replayLength_eq_iff ht).mp hlength
    · intro hle
      refine ⟨⟨_, _, htaken, rfl, (replayLength_eq_iff ht).mpr hle⟩, ?_⟩
      rintro rfl
      exact ⟨_, by rw [hon]; rfl, sleepUs_eq ht (by omega)⟩
  · rw [if_pos hret] at hon
    rw [hon] at hok
    cases hok

theorem honoursDuration_iff_second :
    HonoursDuration (fun _ => none) openDevice .empty 1000 true noFailures :=
  (honoursDuration_iff (fun _ => none) openDevice .empty 1000 true noFailures rfl
    (by decide) (by decide) rfl).mpr (by decide)

/-- **A request of 65536 ms uploads an effect of length 0**, and calls back
65.536 seconds later. -/
theorem long_request_cut :
    (openDevice.on (fun _ => none) .empty 65536 true noFailures).status = .ok ∧
    (openDevice.on (fun _ => none) .empty 65536 true noFailures).kernel.taken =
      [⟨invalidValue, 0, 0, .constant 0x7fff⟩] ∧
    (openDevice.on (fun _ => none) .empty 65536 true noFailures).thread =
      some ⟨65536000⟩ ∧
    ¬ HonoursDuration (fun _ => none) openDevice .empty 65536 true noFailures := by
  refine ⟨rfl, rfl, rfl, ?_⟩
  rintro ⟨⟨e, level, he, -, hlength⟩, -⟩
  cases he
  revert hlength
  decide

end Vibrator

end OplusHardware.QtiVibrator
