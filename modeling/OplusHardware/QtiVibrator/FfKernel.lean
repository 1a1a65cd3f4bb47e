import Mathlib.Data.Finset.Card
import Mathlib.Tactic.Common

/-!
# QtiVibrator — the kernel's force-feedback device

What the force-feedback backend talks to through `mVibraFd`: the set of
effects uploaded with `EVIOCSFF`, the ones started by an `EV_FF` event,
and the gain. Whether a call succeeds is decided by the environment and
passed in; a failed call answers `-1` and changes nothing.

The well-formedness of the device is part of its type: ids are distinct
and not negative, and only a loaded effect plays.
-/

namespace OplusHardware.QtiVibrator

/-- `struct effect_stream`. -/
structure EffectStream where
  effectId : UInt32
  length : UInt32
  playRateHz : UInt32
  data : List Int8
  deriving DecidableEq, Repr

/-- What `effect.u.periodic.custom_data` points to: the three words of
the local `data` array, or an effect stream. -/
inductive CustomData where
  | words (effectId playSec playMs : Int16)
  | stream (s : EffectStream)
  deriving DecidableEq, Repr

/-- The union of `struct ff_effect`, tagged by `effect.type`:
`FF_PERIODIC` with the `FF_CUSTOM` waveform, or `FF_CONSTANT`. -/
inductive FfPayload where
  | periodic (magnitude : Int16) (customData : CustomData) (customLen : UInt32)
  | constant (level : Int16)
  deriving DecidableEq, Repr

/-- `struct ff_effect`. `replay.length` and `replay.delay` are 16-bit
fields of the kernel interface. -/
structure FfEffect where
  id : Int16
  replayLength : UInt16
  replayDelay : UInt16
  payload : FfPayload
  deriving DecidableEq, Repr

/-- What a successful `EVIOCSFF` hands back: the id it allocated and the
play time the driver writes into the caller's `data[1]` and `data[2]`. -/
structure UploadReply where
  id : Int16
  playSec : Int16
  playMs : Int16
  deriving DecidableEq, Repr

/-- The device behind `mVibraFd`. -/
structure FfKernel where
  effects : List FfEffect
  /-- ids of the started effects -/
  playing : List Int16
  gain : Option Int32
  /-- what `EVIOCSFF` has taken so far, as the caller filled it in -/
  taken : List FfEffect
  ids_nodup : (effects.map FfEffect.id).Nodup
  ids_nonneg : ∀ e ∈ effects, 0 ≤ e.id
  playing_loaded : ∀ i ∈ playing, i ∈ effects.map FfEffect.id

namespace FfKernel

/-- The device nothing was uploaded to. -/
def empty : FfKernel where
  effects := []
  playing := []
  gain := none
  taken := []
  ids_nodup := List.nodup_nil
  ids_nonneg := by simp
  playing_loaded := by simp

/-- The uploaded ids, in order of upload. -/
def ids (k : FfKernel) : List Int16 := k.effects.map FfEffect.id

/-- **The set of effect ids uploaded through `mVibraFd`.** -/
def uploaded (k : FfKernel) : Finset Int16 := k.ids.toFinset

@[simp] theorem mem_uploaded {k : FfKernel} {i : Int16} :
    i ∈ k.uploaded ↔ i ∈ k.ids := by
  simp [uploaded]

@[simp] theorem uploaded_empty : empty.uploaded = ∅ := rfl

theorem nonneg_of_mem_ids {k : FfKernel} {i : Int16} (h : i ∈ k.ids) : 0 ≤ i := by
  obtain ⟨e, he, rfl⟩ := List.mem_map.mp h
  exact k.ids_nonneg e he

/-- No id is `-1`, the value the HAL uses for "none". -/
theorem neg_one_notMem_ids (k : FfKernel) : (-1 : Int16) ∉ k.ids :=
  fun h => absurd (nonneg_of_mem_ids h) (by decide)

theorem neg_one_notMem_playing (k : FfKernel) : (-1 : Int16) ∉ k.playing :=
  fun h => neg_one_notMem_ids k (k.playing_loaded _ h)

/-! ## EVIOCRMFF -/

/-- Removing an effect stops it. -/
def erase (k : FfKernel) (id : Int16) : FfKernel where
  effects := k.effects.filter (·.id ≠ id)
  playing := k.playing.filter (· ≠ id)
  gain := k.gain
  taken := k.taken
  ids_nodup := (List.filter_sublist.map _).nodup k.ids_nodup
  ids_nonneg := fun e he => k.ids_nonneg e (List.mem_of_mem_filter he)
  playing_loaded := by
    intro i hi
    rw [List.mem_filter] at hi
    obtain ⟨e, he, rfl⟩ := List.mem_map.mp (k.playing_loaded i hi.1)
    exact List.mem_map.mpr ⟨e, List.mem_filter.mpr ⟨he, by simpa using hi.2⟩, rfl⟩

/-- `ioctl(mVibraFd, EVIOCRMFF, id)`: the value it returns and the
device after it. -/
def evioCRmff (k : FfKernel) (id : Int16) (succeeds : Bool) : Int × FfKernel :=
  if succeeds then (0, k.erase id) else (-1, k)

@[simp] theorem evioCRmff_ok (k : FfKernel) (id : Int16) :
    k.evioCRmff id true = (0, k.erase id) := rfl

@[simp] theorem evioCRmff_fail (k : FfKernel) (id : Int16) :
    k.evioCRmff id false = (-1, k) := rfl

theorem mem_ids_erase {k : FfKernel} {id i : Int16} :
    i ∈ (k.erase id).ids ↔ i ∈ k.ids ∧ i ≠ id := by
  constructor
  · intro h
    obtain ⟨e, he, rfl⟩ := List.mem_map.mp h
    obtain ⟨hk, hne⟩ := List.mem_filter.mp he
    exact ⟨List.mem_map.mpr ⟨e, hk, rfl⟩, by simpa using hne⟩
  · rintro ⟨h, hne⟩
    obtain ⟨e, he, rfl⟩ := List.mem_map.mp h
    exact List.mem_map.mpr ⟨e, List.mem_filter.mpr ⟨he, by simpa using hne⟩, rfl⟩

theorem uploaded_erase (k : FfKernel) (id : Int16) :
    (k.erase id).uploaded = k.uploaded.erase id := by
  ext i
  rw [mem_uploaded, mem_ids_erase, Finset.mem_erase, mem_uploaded, and_comm]

/-! ## EVIOCSFF -/

/-- The kernel hands out a slot that is not in use; `-1` never is one. -/
def accepts (k : FfKernel) (id : Int16) : Bool :=
  decide (0 ≤ id) && decide (id ∉ k.ids)

theorem accepts_iff {k : FfKernel} {id : Int16} :
    k.accepts id = true ↔ 0 ≤ id ∧ id ∉ k.ids := by
  simp [accepts]

/-- A freshly uploaded effect under its new id. -/
def insert (k : FfKernel) (e : FfEffect) (id : Int16)
    (h : k.accepts id = true) : FfKernel where
  effects := k.effects ++ [{ e with id := id }]
  playing := k.playing
  gain := k.gain
  taken := k.taken ++ [e]
  ids_nodup := by
    rw [List.map_append]
    refine List.nodup_append.mpr ⟨k.ids_nodup, by simp, ?_⟩
    intro i hi j hj hij
    simp only [List.map_cons, List.map_nil, List.mem_singleton] at hj
    exact (accepts_iff.mp h).2 (hj ▸ hij ▸ hi)
  ids_nonneg := by
    intro x hx
    rcases List.mem_append.mp hx with hx | hx
    · exact k.ids_nonneg x hx
    · rw [List.mem_singleton] at hx
      subst hx
      exact (accepts_iff.mp h).1
  playing_loaded := by
    intro i hi
    rw [List.map_append]
    exact List.mem_append_left _ (k.playing_loaded i hi)

/-- `ioctl(mVibraFd, EVIOCSFF, &effect)` for a new effect
(`effect.id = -1`), or `none` when it returns `-1`. The environment
offers the reply; an id that is in use or negative is none the kernel
could answer with, and counts as a failure. -/
def evioCSff (k : FfKernel) (e : FfEffect) :
    Option UploadReply → Option (UploadReply × FfKernel)
  | none => none
  | some r => if h : k.accepts r.id = true then some (r, k.insert e r.id h) else none

@[simp] theorem taken_erase (k : FfKernel) (id : Int16) : (k.erase id).taken = k.taken := rfl

@[simp] theorem taken_insert (k : FfKernel) (e : FfEffect) (id : Int16)
    (h : k.accepts id = true) : (k.insert e id h).taken = k.taken ++ [e] := rfl

/-- The effect under a fresh id is the one uploaded last. -/
theorem eq_of_mem_insert {k : FfKernel} {e x : FfEffect} {id : Int16}
    {h : k.accepts id = true} (hx : x ∈ (k.insert e id h).effects) (hid : x.id = id) :
    x = { e with id := id } := by
  rcases List.mem_append.mp hx with hold | hnew
  · exact absurd (List.mem_map.mpr ⟨x, hold, hid⟩) (accepts_iff.mp h).2
  · exact List.mem_singleton.mp hnew

theorem ids_insert (k : FfKernel) (e : FfEffect) (id : Int16)
    (h : k.accepts id = true) : (k.insert e id h).ids = k.ids ++ [id] := by
  simp [ids, insert]

theorem uploaded_insert (k : FfKernel) (e : FfEffect) (id : Int16)
    (h : k.accepts id = true) :
    (k.insert e id h).uploaded = Insert.insert id k.uploaded := by
  ext i
  rw [mem_uploaded, ids_insert, Finset.mem_insert, mem_uploaded, List.mem_append,
    List.mem_singleton, or_comm]

/-- A successful upload allocates an id the kernel accepted. -/
theorem evioCSff_some {k k' : FfKernel} {e : FfEffect} {o : Option UploadReply}
    {r : UploadReply} (h : k.evioCSff e o = some (r, k')) :
    o = some r ∧ ∃ hr : k.accepts r.id = true, k' = k.insert e r.id hr := by
  cases o with
  | none => simp [evioCSff] at h
  | some r' =>
      simp only [evioCSff] at h
      split at h
      · rename_i hr
        cases h
        exact ⟨rfl, hr, rfl⟩
      · cases h

/-! ## EV_FF events -/

/-- Starting a loaded effect; the event of an unknown id is ignored. -/
def start (k : FfKernel) (id : Int16) : FfKernel :=
  if h : id ∈ k.ids then
    { k with
      playing := id :: k.playing
      playing_loaded := by
        intro i hi
        rcases List.mem_cons.mp hi with rfl | hi
        · exact h
        · exact k.playing_loaded i hi }
  else k

/-- `sizeof(struct input_event)`. -/
def sizeofInputEvent : Int := 24

/-- `write(mVibraFd, &play, sizeof(play))` of the start event of `id`. -/
def writeStart (k : FfKernel) (id : Int16) (succeeds : Bool) : Int × FfKernel :=
  if succeeds then (sizeofInputEvent, k.start id) else (-1, k)

/-- `write(mVibraFd, &ie, sizeof(ie))` of an `FF_GAIN` event. -/
def writeGain (k : FfKernel) (value : Int32) (succeeds : Bool) : Int × FfKernel :=
  if succeeds then (sizeofInputEvent, { k with gain := some value }) else (-1, k)

@[simp] theorem ids_start (k : FfKernel) (id : Int16) : (k.start id).ids = k.ids := by
  rw [start]
  split <;> rfl

@[simp] theorem effects_start (k : FfKernel) (id : Int16) :
    (k.start id).effects = k.effects := by
  rw [start]
  split <;> rfl

@[simp] theorem taken_start (k : FfKernel) (id : Int16) : (k.start id).taken = k.taken := by
  rw [start]
  split <;> rfl

@[simp] theorem uploaded_start (k : FfKernel) (id : Int16) :
    (k.start id).uploaded = k.uploaded := by
  simp [uploaded]

theorem mem_playing_start {k : FfKernel} {id : Int16} (h : id ∈ k.ids) :
    id ∈ (k.start id).playing := by
  simp [start, h]

/-- A device without uploaded effects plays nothing. -/
theorem playing_of_uploaded_empty {k : FfKernel} (h : k.uploaded = ∅) :
    k.playing = [] := by
  apply List.eq_nil_iff_forall_not_mem.mpr
  intro i hi
  have hmem : i ∈ k.uploaded := mem_uploaded.mpr (k.playing_loaded i hi)
  rw [h] at hmem
  exact absurd hmem (Finset.notMem_empty i)

end FfKernel

end OplusHardware.QtiVibrator
