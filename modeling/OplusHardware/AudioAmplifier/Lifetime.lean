import OplusHardware.AudioAmplifier.Runs

/-!
# AudioAmplifier — devices that come and go

`amp_module_open` and `amp_dev_close` around `amp_set_feedback`. Every
device is a block of its own, and all feedback goes through the one
pointer `tfa_dev`, whichever device it is asked of.
-/

namespace OplusHardware.AudioAmplifier

open OplusHardware.Base

/-- The symbols a device needs of the audio HAL. -/
inductive AhalSymbol where
  | enableSndDevice
  | enableAudioRoute
  | disableSndDevice
  | disableAudioRoute
  | platformGetPcmDeviceId
  | getUsecaseFromList
  deriving DecidableEq, Repr

/-- How the calls of one open end. -/
structure OpenOutcomes where
  /-- The name is the one of the amplifier interface. -/
  nameMatches : Bool
  calloc : Bool
  /-- `hw_get_module_by_class` finds the audio HAL. -/
  ahal : Bool
  /-- The first symbol that `dlsym` does not find. -/
  missing : Option AhalSymbol
  deriving DecidableEq, Repr

/-- The open ends with a device. -/
def OpenOutcomes.opens (o : OpenOutcomes) : Bool :=
  o.nameMatches && o.calloc && o.ahal && o.missing.isNone

/-- What a new block holds, over the same audio HAL. -/
def Tfa.zeroed (s : Tfa) : Tfa := { s with usecaseTx := none, tfa98xxOut := none }

/-- The library: the blocks that are allocated, the devices that callers
hold, and `tfa_dev` with what its block holds. Blocks are told apart by the
order in which they were allocated. -/
structure Amplifier where
  nextBlock : Nat
  blocks : List Nat
  devices : List Nat
  tfaDev : Option Nat
  tfa : Tfa
  distinct : devices.Nodup
  held : ∀ d ∈ devices, d ∈ blocks
  fresh : ∀ b ∈ blocks, b < nextBlock

namespace Amplifier

variable {s t : Amplifier} {d : Nat}

/-- The library as it is loaded. -/
def load (adev : AudioDevice) : Amplifier where
  nextBlock := 0
  blocks := []
  devices := []
  tfaDev := none
  tfa := Tfa.moduleOpen adev
  distinct := List.nodup_nil
  held := by simp
  fresh := by simp

theorem nextBlock_notMem (s : Amplifier) : s.nextBlock ∉ s.devices := fun hmem =>
  Nat.lt_irrefl _ (s.fresh _ (s.held _ hmem))

/-- `tfa_dev = calloc(1, sizeof(tfa_t))`. -/
def allocate (s : Amplifier) : Amplifier where
  nextBlock := s.nextBlock + 1
  blocks := s.nextBlock :: s.blocks
  devices := s.devices
  tfaDev := some s.nextBlock
  tfa := s.tfa.zeroed
  distinct := s.distinct
  held d hd := List.mem_cons_of_mem _ (s.held d hd)
  fresh b hb := by
    rcases List.mem_cons.mp hb with rfl | hb
    · exact Nat.lt_succ_self _
    · exact Nat.lt_succ_of_lt (s.fresh b hb)

/-- The new block goes to the caller. -/
def handOut (s : Amplifier) : Amplifier where
  nextBlock := s.nextBlock + 1
  blocks := s.nextBlock :: s.blocks
  devices := s.nextBlock :: s.devices
  tfaDev := some s.nextBlock
  tfa := s.tfa.zeroed
  distinct := List.nodup_cons.mpr ⟨s.nextBlock_notMem, s.distinct⟩
  held d hd := by
    rcases List.mem_cons.mp hd with rfl | hd
    · exact List.mem_cons_self
    · exact List.mem_cons_of_mem _ (s.held d hd)
  fresh := s.allocate.fresh

/-- `free`. Nobody sets `tfa_dev`, which may point to the block. -/
def free (s : Amplifier) (b : Nat) : Amplifier where
  nextBlock := s.nextBlock
  blocks := s.blocks.erase b
  devices := s.devices.erase b
  tfaDev := s.tfaDev
  tfa := if s.tfaDev = some b then s.tfa.zeroed else s.tfa
  distinct := s.distinct.erase b
  held d hd := by
    obtain ⟨hne, hd⟩ := s.distinct.mem_erase_iff.mp hd
    exact (List.mem_erase_of_ne hne).mpr (s.held d hd)
  fresh x hx := s.fresh x (List.mem_of_mem_erase hx)

/-- `amp_module_open`: its result, the device it answers and what it leaves. -/
def ampModuleOpen (s : Amplifier) (o : OpenOutcomes) : Int × Option Nat × Amplifier :=
  if !o.nameMatches then (Tfa.enodev, none, s)
  else if !o.calloc then (Tfa.enomem, none, { s with tfaDev := none, tfa := s.tfa.zeroed })
  else if !o.ahal then (Tfa.enodev, none, s.allocate)
  else
    match o.missing with
    | some _ => (Tfa.enodev, none, s.allocate.free s.nextBlock)
    | none => (0, some s.nextBlock, s.handOut)

/-- `amp_dev_close`. -/
def ampDevClose (s : Amplifier) (device : Option Nat) : Int × Amplifier :=
  match device with
  | some d => (0, s.free d)
  | none => (0, s)

/-- `tfa_dev` points to a device that is open. -/
def ready (s : Amplifier) : Bool := s.tfaDev.any fun b => decide (b ∈ s.devices)

inductive Action where
  | moduleOpen (o : OpenOutcomes)
  | devClose (device : Nat)
  | setFeedback (device : Nat) (devices : SndDevice) (enable : Bool) (o : StartOutcomes)
  /-- The audio HAL adds a usecase of its own. -/
  | addUsecase (id : UsecaseId) (type : UsecaseType) (inSndDevice : SndDevice)
  /-- The audio HAL removes a usecase of its own. -/
  | removeUsecase (i : Nat)
  deriving DecidableEq, Repr

/-- Callers use the devices they hold. Feedback when `tfa_dev` points to
none of them has no meaning: it goes through freed memory, the null pointer
or symbols that were never loaded. -/
def step (s : Amplifier) : Action → Option Amplifier
  | .moduleOpen o => some (s.ampModuleOpen o).2.2
  | .devClose d => if d ∈ s.devices then some (s.ampDevClose (some d)).2 else none
  | .setFeedback d devices enable o =>
      if d ∈ s.devices ∧ s.ready = true then
        some { s with tfa := (s.tfa.ampSetFeedback devices enable o).2 }
      else none
  | .addUsecase id type inSndDevice =>
      (s.tfa.step (.addUsecase id type inSndDevice)).map fun u => { s with tfa := u }
  | .removeUsecase i => (s.tfa.step (.removeUsecase i)).map fun u => { s with tfa := u }

/-! ## What a step does -/

/-- A call of the audio HAL or of a device on what `tfa_dev` holds. -/
def tfaAction : Action → Option Tfa.Action
  | .setFeedback _ devices enable o => some (.setFeedback devices enable o)
  | .addUsecase id type inSndDevice => some (.addUsecase id type inSndDevice)
  | .removeUsecase i => some (.removeUsecase i)
  | _ => none

/-- **The ways a step goes.** -/
inductive StepCase (s : Amplifier) : Action → Amplifier → Prop where
  | otherName {o : OpenOutcomes} (hname : o.nameMatches = false) :
      StepCase s (.moduleOpen o) s
  | noMemory {o : OpenOutcomes} (hname : o.nameMatches = true) (hmem : o.calloc = false) :
      StepCase s (.moduleOpen o) { s with tfaDev := none, tfa := s.tfa.zeroed }
  | noAhal {o : OpenOutcomes} (hname : o.nameMatches = true) (hmem : o.calloc = true)
      (hahal : o.ahal = false) : StepCase s (.moduleOpen o) s.allocate
  | noSymbol {o : OpenOutcomes} (hname : o.nameMatches = true) (hmem : o.calloc = true)
      (hahal : o.ahal = true) (hsym : o.missing ≠ none) :
      StepCase s (.moduleOpen o) (s.allocate.free s.nextBlock)
  | opened {o : OpenOutcomes} (hname : o.nameMatches = true) (hmem : o.calloc = true)
      (hahal : o.ahal = true) (hsym : o.missing = none) :
      StepCase s (.moduleOpen o) s.handOut
  | closed {d : Nat} (hd : d ∈ s.devices) : StepCase s (.devClose d) (s.free d)
  | tfa {a : Action} {b : Tfa.Action} {u : Tfa} (ha : tfaAction a = some b)
      (hu : s.tfa.step b = some u) : StepCase s a { s with tfa := u }

theorem openCase (s : Amplifier) (o : OpenOutcomes) :
    StepCase s (.moduleOpen o) (s.ampModuleOpen o).2.2 := by
  rw [ampModuleOpen]
  cases hname : o.nameMatches with
  | false => exact .otherName hname
  | true =>
      cases hmem : o.calloc with
      | false => exact .noMemory hname hmem
      | true =>
          cases hahal : o.ahal with
          | false => exact .noAhal hname hmem hahal
          | true =>
              cases hsym : o.missing with
              | none => exact .opened hname hmem hahal hsym
              | some symbol => exact .noSymbol hname hmem hahal (by simp [hsym])

theorem step_cases {a : Action} (hs : step s a = some t) : StepCase s a t := by
  cases a with
  | moduleOpen o =>
      cases hs
      exact openCase s o
  | devClose d =>
      simp only [step] at hs
      split at hs
      · rename_i hd
        cases hs
        exact .closed hd
      · cases hs
  | setFeedback d devices enable o =>
      simp only [step] at hs
      split at hs
      · cases hs
        exact .tfa rfl rfl
      · cases hs
  | addUsecase id type inSndDevice =>
      obtain ⟨u, hu, rfl⟩ := Option.map_eq_some_iff.mp hs
      exact .tfa rfl hu
  | removeUsecase i =>
      obtain ⟨u, hu, rfl⟩ := Option.map_eq_some_iff.mp hs
      exact .tfa rfl hu

/-! ## The pointer -/

variable {a : Action} {h : List (Amplifier × Action)} {adev : AudioDevice}

/-- A step that takes `tfa_dev` away from open devices: an open under the
right name that fails, or closing the device it points to before the others. -/
def strands (s : Amplifier) : Action → Bool
  | .moduleOpen o => o.nameMatches && !o.opens && !s.devices.isEmpty
  | .devClose d => decide (s.tfaDev = some d ∧ s.devices ≠ [d])
  | _ => false

/-- As long as a device is open, feedback goes to one. -/
def Ready (s : Amplifier) : Prop := s.devices ≠ [] → s.ready = true

theorem ready_some {b : Nat} (hdev : s.tfaDev = some b) : s.ready = true ↔ b ∈ s.devices := by
  rw [ready, hdev, Option.any_some, decide_eq_true_iff]

theorem ready_handOut : s.handOut.Ready := by
  intro _
  exact (ready_some rfl).mpr List.mem_cons_self

theorem not_ready_allocate : s.allocate.ready = false := by
  rw [← Bool.not_eq_true, ready_some rfl]
  exact s.nextBlock_notMem

/-- A block that is not a device's takes nothing from the devices. -/
theorem devices_free_of_notMem {b : Nat} (hb : b ∉ s.devices) : (s.free b).devices = s.devices :=
  List.erase_of_not_mem hb

theorem not_ready_noSymbol : (s.allocate.free s.nextBlock).ready = false := by
  rw [← Bool.not_eq_true, ready_some rfl,
    devices_free_of_notMem (s := s.allocate) s.nextBlock_notMem]
  exact s.nextBlock_notMem

/-- Closing the device at `tfa_dev` leaves the pointer without one. -/
theorem not_ready_free (hdev : s.tfaDev = some d) : (s.free d).ready = false := by
  rw [← Bool.not_eq_true, ready_some (s := s.free d) hdev]
  exact s.distinct.not_mem_erase

theorem ready_free (hs : s.ready = true) (hdev : s.tfaDev ≠ some d) :
    (s.free d).ready = true := by
  obtain ⟨b, hb⟩ : ∃ b, s.tfaDev = some b := by
    cases hb : s.tfaDev with
    | none => simp [ready, hb] at hs
    | some b => exact ⟨b, rfl⟩
  rw [ready_some hb] at hs
  rw [ready_some (s := s.free d) hb]
  have hne : b ≠ d := by
    rintro rfl
    exact hdev hb
  exact (List.mem_erase_of_ne hne).mpr hs

/-- An open that fails leaves the devices as they are. -/
theorem strands_open {o : OpenOutcomes} (hname : o.nameMatches = true)
    (hopens : o.opens = false) :
    strands s (.moduleOpen o) = false ↔ s.devices = [] := by
  simp [strands, hname, hopens]

theorem strands_close :
    strands s (.devClose d) = false ↔ (s.tfaDev = some d → s.devices = [d]) := by
  simp [strands]

/-- **The pointer, step by step**: from a state in which feedback goes to an
open device, exactly the steps that strand lead out. -/
theorem ready_step_iff (hr : s.Ready) (hs : step s a = some t) :
    t.Ready ↔ strands s a = false := by
  cases step_cases hs with
  | otherName hname => simp [strands, hname, hr]
  | noMemory hname hmem =>
      rw [strands_open hname (by simp [OpenOutcomes.opens, hmem])]
      simp [Ready, ready]
  | noAhal hname hmem hahal =>
      rw [strands_open hname (by simp [OpenOutcomes.opens, hahal]), Ready, not_ready_allocate]
      simp [allocate]
  | @noSymbol o hname hmem hahal hsym =>
      have hfails : o.opens = false := by
        simpa [OpenOutcomes.opens, hname, hmem, hahal, Option.isSome_iff_ne_none] using hsym
      rw [strands_open hname hfails, Ready, not_ready_noSymbol,
        devices_free_of_notMem (s := s.allocate) s.nextBlock_notMem]
      simp [allocate]
  | opened hname hmem hahal hsym =>
      simp [ready_handOut, strands, OpenOutcomes.opens, hname, hmem, hahal, hsym]
  | @closed d hd =>
      rw [strands_close]
      by_cases hdev : s.tfaDev = some d
      · rw [Ready, not_ready_free hdev]
        show (s.devices.erase d ≠ [] → false = true) ↔ _
        have hlast : s.devices.erase d = [] ↔ s.devices = [d] := by
          rw [List.erase_eq_nil_iff]
          simp [List.ne_nil_of_mem hd]
        simp [hdev, hlast]
      · have hready : (s.free d).Ready := fun _ =>
          ready_free (hr (List.ne_nil_of_mem hd)) hdev
        simp [hdev, hready]
  | @tfa a b u ha hu =>
      have hquiet : strands s a = false := by
        cases a with
        | moduleOpen o => cases ha
        | devClose d => cases ha
        | _ => rfl
      simp only [hquiet, iff_true]
      exact hr

/-- **Feedback goes to an open device throughout a run exactly when** no
open under the right name fails while a device is open, and the device that
`tfa_dev` points to is closed only as the last one. -/
theorem feedback_ready_iff (hp : Path step (load adev) h t) :
    ((∀ x ∈ h, x.1.Ready) ∧ t.Ready) ↔ ∀ x ∈ h, strands x.1 x.2 = false := by
  refine Path.always_iff Ready Ready (fun s a => strands s a = false) ?_ (fun _ hr => hr) ?_ hp ?_
  · intro s a u hr hok hs
    exact (ready_step_iff hr hs).mpr hok
  · intro s a u hr hok hs hu
    exact hok ((ready_step_iff hr hs).mp hu)
  · intro hne
    exact absurd rfl hne

/-- One device that is opened again after it was closed. -/
def reopened : List Action :=
  [.moduleOpen ⟨true, true, true, none⟩, .setFeedback 0 .outSpeaker true ⟨true, 4, true, 0⟩,
    .devClose 0, .moduleOpen ⟨true, true, true, some .enableAudioRoute⟩,
    .moduleOpen ⟨true, true, true, none⟩, .setFeedback 2 .outSpeaker true ⟨true, 4, true, 0⟩]

theorem feedback_ready_iff_reopened :
    ∃ r ∈ follow step (load Tfa.emptyAdev) reopened, (∀ x ∈ r.1, x.1.Ready) ∧ r.2.Ready := by
  have hrun : ∃ r ∈ follow step (load Tfa.emptyAdev) reopened,
      ∀ x ∈ r.1, strands x.1 x.2 = false := by
    decide
  obtain ⟨r, hr, hok⟩ := hrun
  exact ⟨r, hr, (feedback_ready_iff (path_of_follow hr)).mpr hok⟩

end Amplifier

/-! ## What is never given back -/

def opensPcm : AhalCall → Bool
  | .pcmOpen _ => true
  | _ => false

def closesPcm : AhalCall → Bool
  | .pcmClose _ => true
  | _ => false

/-- `k` streams were opened that nobody can close any more, and no more
usecases than that are left in the list beside the one of the open stream. -/
structure Tfa.Lost (k : Nat) (s : Tfa) : Prop where
  streams : s.calls.countP opensPcm = s.calls.countP closesPcm + s.openStreams + k
  atLeast : s.openStreams ≤ s.adev.count .audioSpkrCalibTx
  atMost : s.adev.count .audioSpkrCalibTx ≤ s.openStreams + k

namespace Tfa

variable {s t : Tfa} {a : Action} {dev : SndDevice} {r : Int × Tfa} {k : Nat}

theorem countP_failedCalls {mid : List AhalCall}
    (hmid : mid = [] ∨ ∃ pcm, mid = [.pcmOpen pcm, .pcmClose pcm]) :
    (failedCalls mid).countP opensPcm = (failedCalls mid).countP closesPcm := by
  rcases hmid with rfl | ⟨pcm, rfl⟩ <;> rfl

theorem StartCase.lost (hc : StartCase s dev r) (hs : s.Lost k) : r.2.Lost k := by
  have hstreams := hs.streams
  have hmost := hs.atMost
  have hleast := hs.atLeast
  cases hc with
  | idle _ => exact hs
  | noMemory _ => exact ⟨hstreams, hleast, hmost⟩
  | @failed rc t mid _ hout hlist hout' hmid hcalls =>
      have hcount : t.adev.count .audioSpkrCalibTx = s.adev.count .audioSpkrCalibTx := by
        rw [AudioDevice.count, hlist, AudioDevice.count]
      have hbalanced := countP_failedCalls hmid
      have hnone := openStreams_none hout
      have hnone' := openStreams_none hout'
      show t.Lost k
      refine ⟨?_, by omega, by omega⟩
      rw [hcalls, List.countP_append, List.countP_append]
      omega
  | @started t pcm hout hcount hout' hcalls =>
      have hnone := openStreams_none hout
      have hone := openStreams_some hout'
      show t.Lost k
      refine ⟨?_, by omega, by omega⟩
      rw [hcalls, List.countP_append, List.countP_append]
      simp only [List.countP_cons, List.countP_nil, opensPcm, closesPcm]
      simp only [if_true, Bool.false_eq_true, if_false]
      omega

/-- Closing the stream settles it. -/
theorem countP_closePcm (s : Tfa) :
    s.closePcm.calls.countP opensPcm = s.calls.countP opensPcm ∧
      s.closePcm.calls.countP closesPcm = s.calls.countP closesPcm + s.openStreams := by
  cases hout : s.tfa98xxOut with
  | none =>
      have hsame : s.closePcm = s := by
        simp only [closePcm, hout]
      rw [hsame, openStreams_none hout]
      exact ⟨rfl, rfl⟩
  | some pcm =>
      have hcalls : s.closePcm.calls = s.calls ++ [.pcmClose pcm] := by
        simp [closePcm, hout, call]
      rw [hcalls, openStreams_some hout, List.countP_append, List.countP_append]
      exact ⟨rfl, rfl⟩

theorem StopCase.lost (hc : StopCase s dev t) (hs : s.Lost k) : t.Lost k := by
  have hstreams := hs.streams
  have hmost := hs.atMost
  have hle : s.openStreams ≤ 1 := by
    unfold openStreams
    split <;> omega
  obtain ⟨hopens, hcloses⟩ := countP_closePcm s
  cases hc with
  | idle _ => exact hs
  | removed hdev hcount hout hcalls =>
      have hnone := openStreams_none hout
      refine ⟨?_, by omega, by omega⟩
      rw [hcalls, List.countP_append, List.countP_append]
      simp only [List.countP_cons, List.countP_nil, opensPcm, closesPcm]
      simp only [Bool.false_eq_true, if_false]
      omega
  | empty hdev hcount hadev hout hcalls =>
      have hnone := openStreams_none hout
      refine ⟨?_, by omega, by rw [hadev]; omega⟩
      rw [hcalls, List.countP_append, List.countP_append]
      simp only [List.countP_cons, List.countP_nil, opensPcm, closesPcm]
      simp only [Bool.false_eq_true, if_false]
      omega

theorem Lost.step (hi : s.Lost k) (hs : step s a = some t) : t.Lost k := by
  cases a with
  | setFeedback dev enable o =>
      cases enable with
      | true =>
          cases hs
          exact (startFeedback_cases s dev o).lost hi
      | false =>
          cases hs
          exact (stopFeedback_cases s dev).lost hi
  | addUsecase id type dev =>
      simp only [Tfa.step] at hs
      split at hs
      · cases hs
      · rename_i hid
        cases hs
        have hcount : (s.adev.addTail id type dev).count .audioSpkrCalibTx =
            s.adev.count .audioSpkrCalibTx := by
          rw [AudioDevice.count_addTail, if_neg hid, Nat.add_zero]
        exact ⟨hi.streams, hcount ▸ hi.atLeast, hcount ▸ hi.atMost⟩
  | removeUsecase i =>
      simp only [Tfa.step] at hs
      split at hs
      · rename_i u hu
        split at hs
        · cases hs
        · rename_i hid
          cases hs
          have hcount := AudioDevice.count_remove (i := .audioSpkrCalibTx)
            (List.mem_of_getElem? hu)
          rw [if_neg hid, Nat.add_zero] at hcount
          exact ⟨hi.streams, hcount ▸ hi.atLeast, hcount ▸ hi.atMost⟩
      · cases hs

/-- With its block, an open stream is lost. -/
theorem Lost.zeroed (hi : s.Lost k) : s.zeroed.Lost (k + s.openStreams) := by
  have hstreams := hi.streams
  have hmost := hi.atMost
  have hnone : s.zeroed.openStreams = 0 := rfl
  refine ⟨?_, Nat.zero_le _, ?_⟩
  · show s.calls.countP opensPcm = s.calls.countP closesPcm + s.zeroed.openStreams + _
    omega
  · show s.adev.count .audioSpkrCalibTx ≤ _
    omega

end Tfa

namespace Amplifier

variable {s t : Amplifier} {a : Action} {h : List (Amplifier × Action)} {adev : AudioDevice}

/-- The step takes the block at `tfa_dev` away while a stream is open. -/
def losesStream : Amplifier × Action → Bool
  | (s, .moduleOpen o) => o.nameMatches && s.tfa.tfa98xxOut.isSome
  | (s, .devClose d) => decide (s.tfaDev = some d) && s.tfa.tfa98xxOut.isSome
  | _ => false

/-- An open that does not find the audio HAL keeps its block. -/
def losesBlock : Amplifier × Action → Bool
  | (_, .moduleOpen o) => o.nameMatches && o.calloc && !o.ahal
  | _ => false

/-- What was lost in a run so far. -/
structure Losses (h : List (Amplifier × Action)) (s : Amplifier) : Prop where
  tfa : s.tfa.Lost (h.countP losesStream)
  blocks : s.blocks.length = s.devices.length + h.countP losesBlock

theorem openStreams_toNat (s : Tfa) : s.tfa98xxOut.isSome.toNat = s.openStreams := by
  cases hout : s.tfa98xxOut with
  | none => exact (Tfa.openStreams_none hout).symm
  | some pcm => exact (Tfa.openStreams_some hout).symm

/-- An open under the right name, by what it does to the blocks. -/
theorem Losses.open {o : OpenOutcomes} (hi : Losses h s) (hname : o.nameMatches = true)
    (htfa : t.tfa = s.tfa.zeroed)
    (hblocks : t.blocks.length + s.devices.length =
      s.blocks.length + t.devices.length + (losesBlock (s, .moduleOpen o)).toNat) :
    Losses (h ++ [(s, .moduleOpen o)]) t := by
  have hstream : losesStream (s, .moduleOpen o) = s.tfa.tfa98xxOut.isSome := by
    rw [losesStream, hname, Bool.true_and]
  have hsame := hi.blocks
  constructor
  · rw [countP_snoc, hstream, openStreams_toNat, htfa]
    exact hi.tfa.zeroed
  · rw [countP_snoc]
    omega

theorem Losses.closed {d : Nat} (hi : Losses h s) (hd : d ∈ s.devices) :
    Losses (h ++ [(s, .devClose d)]) (s.free d) := by
  have hblock := List.length_erase_of_mem (s.held d hd)
  have hdevice := List.length_erase_of_mem hd
  have hpos := List.length_pos_of_mem hd
  have hsame := hi.blocks
  constructor
  · rw [countP_snoc]
    by_cases hdev : s.tfaDev = some d
    · have hstream : losesStream (s, .devClose d) = s.tfa.tfa98xxOut.isSome := by
        rw [losesStream, decide_eq_true hdev, Bool.true_and]
      rw [hstream, openStreams_toNat, free, if_pos hdev]
      exact hi.tfa.zeroed
    · have hstream : losesStream (s, .devClose d) = false := by
        rw [losesStream, decide_eq_false hdev, Bool.false_and]
      rw [hstream, free, if_neg hdev]
      exact hi.tfa
  · show (s.blocks.erase d).length = (s.devices.erase d).length + _
    have hkept : (losesBlock (s, .devClose d)).toNat = 0 := rfl
    rw [countP_snoc]
    omega

theorem losses_step (hi : Losses h s) (hs : step s a = some t) : Losses (h ++ [(s, a)]) t := by
  cases step_cases hs with
  | otherName hname =>
      constructor
      · rw [countP_snoc, losesStream, hname]
        exact hi.tfa
      · rw [countP_snoc, losesBlock, hname]
        exact hi.blocks
  | noMemory hname hmem =>
      refine hi.open hname rfl ?_
      rw [losesBlock, hname, hmem]
      rfl
  | noAhal hname hmem hahal =>
      refine hi.open hname rfl ?_
      rw [losesBlock, hname, hmem, hahal]
      show s.blocks.length + 1 + _ = _ + 1
      exact Nat.add_right_comm _ _ _
  | noSymbol hname hmem hahal hsym =>
      have htfa : (s.allocate.free s.nextBlock).tfa = s.tfa.zeroed := if_pos rfl
      refine hi.open hname htfa ?_
      rw [losesBlock, hname, hmem, hahal,
        devices_free_of_notMem (s := s.allocate) s.nextBlock_notMem]
      show ((s.nextBlock :: s.blocks).erase s.nextBlock).length + _ = _
      rw [List.erase_cons_head]
      rfl
  | opened hname hmem hahal hsym =>
      refine hi.open hname rfl ?_
      rw [losesBlock, hname, hmem, hahal]
      show s.blocks.length + 1 + s.devices.length = s.blocks.length + (s.devices.length + 1) + 0
      omega
  | closed hd => exact hi.closed hd
  | @tfa a b u ha hu =>
      have hkept : losesStream (s, a) = false ∧ losesBlock (s, a) = false := by
        cases a with
        | moduleOpen o => cases ha
        | devClose d => cases ha
        | _ => exact ⟨rfl, rfl⟩
      constructor
      · rw [countP_snoc, hkept.1]
        exact hi.tfa.step hu
      · rw [countP_snoc, hkept.2]
        exact hi.blocks

/-- **What a run loses**: the streams that are open beyond the one feedback
has are those whose block was replaced or freed under them, at most as many
usecases are left in the audio HAL's list, and the blocks that are no
device's are those of the opens that did not find the audio HAL. -/
theorem losses_counted (hp : Path step (load adev) h t)
    (hadev : adev.count .audioSpkrCalibTx = 0) :
    t.tfa.calls.countP opensPcm =
        t.tfa.calls.countP closesPcm + t.tfa.openStreams + h.countP losesStream ∧
      t.tfa.openStreams ≤ t.tfa.adev.count .audioSpkrCalibTx ∧
      t.tfa.adev.count .audioSpkrCalibTx ≤ t.tfa.openStreams + h.countP losesStream ∧
      t.blocks.length = t.devices.length + h.countP losesBlock := by
  have hlosses : Losses h t := by
    refine hp.history_inv Losses (fun _ _ => True) ?_ ?_ fun _ _ => trivial
    · intro h s a t hi _ hs
      exact losses_step hi hs
    · exact ⟨⟨rfl, Nat.zero_le _, Nat.le_of_eq hadev⟩, rfl⟩
  exact ⟨hlosses.tfa.streams, hlosses.tfa.atLeast, hlosses.tfa.atMost, hlosses.blocks⟩

theorem losses_counted_reopened :
    ∃ r ∈ follow step (load Tfa.emptyAdev) reopened, r.1.countP losesStream = 1 ∧
      r.2.tfa.calls.countP opensPcm =
        r.2.tfa.calls.countP closesPcm + r.2.tfa.openStreams + 1 := by
  have hrun : ∃ r ∈ follow step (load Tfa.emptyAdev) reopened,
      r.1.countP losesStream = 1 := by
    decide
  obtain ⟨r, hr, hlost⟩ := hrun
  have hcounted := losses_counted (path_of_follow hr) rfl
  rw [hlost] at hcounted
  exact ⟨r, hr, hlost, hcounted.1⟩

end Amplifier

end OplusHardware.AudioAmplifier
