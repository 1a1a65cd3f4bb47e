import OplusHardware.QtiVibrator.Runs

/-!
# QtiVibrator — the effects that nobody removes

What a failed `EVIOCRMFF` leaves behind, counted over whole runs. An
effect whose id `errout` has forgotten stays on the device for good: no
later call names it.
-/

namespace OplusHardware.QtiVibrator

open InputFFDevice OplusHardware.Base

variable {getEffectStream : UInt32 → Option EffectStream}

/-- The set gets one more element, or stays as it is. -/
def Grows (A B : Finset Int16) : Bool → Prop
  | true => ∃ x, x ∉ A ∧ B = insert x A
  | false => B = A

section Grows

variable {A B : Finset Int16} {b : Bool}

theorem Grows.subset (h : Grows A B b) : A ⊆ B := by
  cases b with
  | true =>
      obtain ⟨x, -, rfl⟩ := h
      exact Finset.subset_insert x A
  | false =>
      cases h
      exact Finset.Subset.refl _

theorem Grows.card (h : Grows A B b) : B.card = A.card + b.toNat := by
  cases b with
  | true =>
      obtain ⟨x, hx, rfl⟩ := h
      exact Finset.card_insert_of_notMem hx
  | false =>
      cases h
      rfl

end Grows

namespace InputFFDevice

variable {dev : InputFFDevice} {kernel : FfKernel} {effectId : Int32}
  {timeoutMs : UInt32} {playLengthMs : Option Int} {o : PlayOutcomes}

/-- The effects on the device that the HAL has no id of. -/
def orphans (dev : InputFFDevice) (kernel : FfKernel) : Finset Int16 :=
  kernel.uploaded.erase dev.mCurrAppId

/-- The id that the HAL has is the one of an effect on the device. -/
def Loaded (dev : InputFFDevice) (kernel : FfKernel) : Prop :=
  dev.mCurrAppId ≠ invalidValue → dev.mCurrAppId ∈ kernel.uploaded

theorem orphans_withId_invalid (dev : InputFFDevice) (k : FfKernel) :
    (dev.withId invalidValue).orphans k = k.uploaded := by
  apply Finset.erase_eq_of_notMem
  rw [FfKernel.mem_uploaded]
  exact k.neg_one_notMem_ids

/-- Removing the previous effect leaves the orphans. -/
theorem uploaded_withoutPrevious_eq :
    (dev.withoutPrevious kernel).uploaded = dev.orphans kernel := by
  by_cases hid : dev.mCurrAppId = invalidValue
  · rw [withoutPrevious, if_neg (not_not.mpr hid), ← orphans_withId_invalid dev,
      withId_self hid]
  · rw [withoutPrevious, if_pos hid, FfKernel.uploaded_erase, orphans]

/-- A loaded effect whose id is forgotten is one more orphan. -/
theorem grows_of_not_removalOk (hl : dev.Loaded kernel) (hr : dev.removalOk o = false) :
    Grows (dev.orphans kernel) kernel.uploaded true := by
  simp only [removalOk, Bool.or_eq_false_iff, decide_eq_false_iff_not] at hr
  refine ⟨dev.mCurrAppId, Finset.notMem_erase _ _, ?_⟩
  exact (Finset.insert_erase (hl hr.1)).symm

theorem loaded_withId_invalid {k : FfKernel} : (dev.withId invalidValue).Loaded k :=
  fun h => absurd rfl h

theorem notMem_orphans_of_accepts {id : Int16}
    (ha : (dev.withoutPrevious kernel).accepts id = true) : id ∉ dev.orphans kernel := by
  rw [← uploaded_withoutPrevious_eq, FfKernel.mem_uploaded]
  exact (FfKernel.accepts_iff.mp ha).2

/-- **A request to start** leaves one more orphan exactly when an
`EVIOCRMFF` it makes fails. -/
theorem StartCase.orphans_grow {stream : Option EffectStream} {r : PlayResult}
    (h : StartCase dev kernel stream effectId timeoutMs playLengthMs o r)
    (hl : dev.Loaded kernel) :
    r.dev.Loaded r.kernel ∧
      Grows (dev.orphans kernel) (r.dev.orphans r.kernel) (dev.startRemovalFails kernel o) := by
  cases h with
  | removeFails hr =>
      have hfails : dev.startRemovalFails kernel o = true := by
        simp [startRemovalFails, hr]
      rw [hfails, orphans_withId_invalid]
      exact ⟨loaded_withId_invalid, grows_of_not_removalOk hl hr⟩
  | uploadFails hr hu =>
      have hfine : dev.startRemovalFails kernel o = false := by
        simp [startRemovalFails, hr, hu]
      rw [hfine, orphans_withId_invalid]
      exact ⟨loaded_withId_invalid, uploaded_withoutPrevious_eq⟩
  | @started hr r hu ha hs =>
      have hfine : dev.startRemovalFails kernel o = false := by
        simp [startRemovalFails, hr, hs]
      refine ⟨fun _ => ?_, ?_⟩
      · rw [FfKernel.uploaded_start, FfKernel.uploaded_insert]
        exact Finset.mem_insert_self _ _
      · rw [hfine]
        show (FfKernel.uploaded _).erase r.id = dev.orphans kernel
        rw [FfKernel.uploaded_start, FfKernel.uploaded_insert, uploaded_withoutPrevious_eq]
        exact Finset.erase_insert (notMem_orphans_of_accepts ha)
  | @startFails hr r hu ha hs hc =>
      have hfails : dev.startRemovalFails kernel o = true := by
        simp [startRemovalFails, hr, hs, hc, uploadOk_of_accepts hu ha]
      rw [hfails, orphans_withId_invalid, FfKernel.uploaded_insert, uploaded_withoutPrevious_eq]
      exact ⟨loaded_withId_invalid, r.id, notMem_orphans_of_accepts ha, rfl⟩
  | @hidden hr r hu ha hs hc =>
      have hfine : dev.startRemovalFails kernel o = false := by
        simp [startRemovalFails, hr, hc]
      rw [hfine, orphans_withId_invalid, FfKernel.uploaded_erase, FfKernel.uploaded_insert,
        uploaded_withoutPrevious_eq]
      exact ⟨loaded_withId_invalid, Finset.erase_insert (notMem_orphans_of_accepts ha)⟩

/-- A request to stop. -/
theorem stop_orphans_grow (hfd : dev.mVibraFd ≠ invalidValue) (hl : dev.Loaded kernel) :
    let r := play getEffectStream dev kernel effectId 0 playLengthMs o
    r.dev.Loaded r.kernel ∧
      Grows (dev.orphans kernel) (r.dev.orphans r.kernel) !(dev.removalOk o) := by
  intro r
  have hr : r = _ := play_stop hfd
  cases hrm : dev.removalOk o with
  | true =>
      rw [hrm, if_pos rfl] at hr
      rw [hr, orphans_withId_invalid]
      exact ⟨loaded_withId_invalid, uploaded_withoutPrevious_eq⟩
  | false =>
      rw [hrm, if_neg (by simp)] at hr
      rw [hr, orphans_withId_invalid]
      exact ⟨loaded_withId_invalid, grows_of_not_removalOk hl hrm⟩

theorem play_orphans_grow (hl : dev.Loaded kernel) :
    let r := play getEffectStream dev kernel effectId timeoutMs playLengthMs o
    r.dev.Loaded r.kernel ∧ Grows (dev.orphans kernel) (r.dev.orphans r.kernel)
      (dev.removalFails kernel timeoutMs o) := by
  intro r
  by_cases hfd : dev.mVibraFd = invalidValue
  · have hr : r = _ := play_closed hfd
    rw [hr, removalFails, if_pos hfd]
    exact ⟨hl, rfl⟩
  · rw [removalFails, if_neg hfd]
    by_cases h0 : timeoutMs = 0
    · subst h0
      exact stop_orphans_grow hfd hl
    · rw [if_pos h0]
      exact (play_cases hfd h0).orphans_grow hl

end InputFFDevice

namespace Hal

variable {s t : Hal} {a : Call × CallEnv} {h : List (Hal × (Call × CallEnv))}

/-- The effects on the device that no call can name any more. -/
def orphans (s : Hal) : Finset Int16 := s.vib.ff.orphans s.kernel

/-- What holds of the force-feedback backend whatever fails. -/
structure Owns (h : List (Hal × (Call × CallEnv))) (s : Hal) : Prop where
  led : s.vib.ledVib.mDetected = false
  loaded : s.vib.ff.Loaded s.kernel
  card : s.orphans.card = h.countP fun x => x.1.removalFails x.2
  kept : ∀ x ∈ h, x.1.orphans ⊆ s.orphans

theorem orphans_grow_step (getEffectStream : UInt32 → Option EffectStream)
    (hled : s.vib.ledVib.mDetected = false)
    (hl : s.vib.ff.Loaded s.kernel) (c : Call) (env : CallEnv) :
    let t := after (s.serve getEffectStream c env)
    t.vib.ff.Loaded t.kernel ∧ Grows s.orphans t.orphans (s.removalFails (c, env)) := by
  intro t
  cases hc : request c with
  | none =>
      obtain ⟨hid, -, -, hk⟩ := after_other getEffectStream hled env hc
      have hsame : t.orphans = s.orphans := by
        rw [orphans, orphans, InputFFDevice.orphans, InputFFDevice.orphans, hk, hid]
      rw [removalFails, hc, InputFFDevice.Loaded, hk, hid]
      exact ⟨hl, hsame⟩
  | some timeoutMs =>
      obtain ⟨m, effectId, playLengthMs, hplay⟩ := after_play getEffectStream hled env hc
      have hl' : (s.vib.ff.withMagnitude m).Loaded s.kernel := hl
      have ht : t = _ := hplay
      rw [ht, removalFails, hc]
      exact play_orphans_grow hl'

theorem Owns.step (hi : Owns h s) (hs : step getEffectStream s a = some t) :
    Owns (h ++ [(s, a)]) t := by
  cases hs
  obtain ⟨hled, -, -⟩ := after_fd getEffectStream hi.led a.1 a.2
  obtain ⟨hloaded, hgrows⟩ :=
    orphans_grow_step getEffectStream hi.led hi.loaded a.1 a.2
  refine ⟨hled, hloaded, ?_, ?_⟩
  · rw [countP_snoc, hgrows.card, hi.card]
  · intro x hx
    rcases List.mem_append.mp hx with hx | hx
    · exact (hi.kept x hx).trans hgrows.subset
    · cases List.mem_singleton.mp hx
      exact hgrows.subset

/-- **Orphans, counted**: in every run from the constructor, whatever fails,
the device has exactly as many effects that the HAL has no id of as an
`EVIOCRMFF` failed, none of which ever goes away again, and at most one
other. -/
theorem orphans_counted (getEffectStream : UInt32 → Option EffectStream) (soc : Int)
    (socId : Option Int) (dir : Option (List InputNode))
    (hp : Path (Hal.step getEffectStream) (boot soc socId dir) h t) :
    t.orphans.card = (h.countP fun x => x.1.removalFails x.2) ∧
      (∀ x ∈ h, x.1.orphans ⊆ t.orphans) ∧
      t.kernel.uploaded.card =
        t.orphans.card + if t.vib.ff.mCurrAppId = invalidValue then 0 else 1 := by
  have hstart := construct_mCurrAppId soc socId dir
  have howns : Owns h t := by
    refine hp.history_inv Owns (fun _ _ => True) ?_ ?_ fun _ _ => trivial
    · intro h s a t hi _ hs
      exact hi.step hs
    · refine ⟨rfl, fun hne => absurd hstart hne, ?_, by simp⟩
      rfl
  refine ⟨howns.card, howns.kept, ?_⟩
  split
  · rename_i hid
    have hall : t.orphans = t.kernel.uploaded := by
      rw [orphans, ← withId_self hid, orphans_withId_invalid]
    rw [hall, Nat.add_zero]
  · rename_i hid
    exact (Finset.card_erase_add_one (howns.loaded hid)).symm

theorem orphans_counted_one_leak :
    ∃ r ∈ follow (Hal.step fun _ => none) bootOneDevice
        [(.on 200 true, Vibrator.noFailures), (.on 200 true, removalsFail),
          (.on 200 true, ⟨⟨true, some ⟨1, 0, 0⟩, true, true⟩, true, []⟩)],
      r.2.orphans.card = 1 ∧ r.2.kernel.uploaded.card = 2 := by
  have hrun : ∃ r ∈ follow (Hal.step fun _ => none) bootOneDevice
      [(.on 200 true, Vibrator.noFailures), (.on 200 true, removalsFail),
        (.on 200 true, ⟨⟨true, some ⟨1, 0, 0⟩, true, true⟩, true, []⟩)],
      (r.1.countP fun x => x.1.removalFails x.2) = 1 ∧
        r.2.vib.ff.mCurrAppId ≠ invalidValue := by
    decide
  obtain ⟨r, hr, hfailed, hid⟩ := hrun
  obtain ⟨hcard, -, huploaded⟩ :=
    orphans_counted (fun _ => none) _ _ _ (path_of_follow hr)
  rw [hfailed] at hcard
  rw [hcard, if_neg hid] at huploaded
  exact ⟨r, hr, hcard, huploaded⟩

end Hal

end OplusHardware.QtiVibrator
