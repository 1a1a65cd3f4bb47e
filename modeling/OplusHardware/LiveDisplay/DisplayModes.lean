import OplusHardware.Base.Binder
import OplusHardware.Base.Numeral
import OplusHardware.Base.Process

/-!
# LiveDisplay — DisplayModes

`class DisplayModes`: the modes of `kModeMap`, the constructor that reads
the default from a file, and `setDisplayMode`, which moves the panel, the
SDM controller, two members and the file one after the other.

`setDisplayMode` is a program over those steps, so it may be observed, or
cut off, between any two of them. How a step ends is one `Bool` of the
environment; a failed one changes nothing it would have changed.
-/

namespace OplusHardware.LiveDisplay

open OplusHardware.Base

/-! ## The modes -/

/-- `DisplayModes::ModeInfo`. -/
structure ModeInfo where
  name : String
  displayModeId : Int32
  seedMode : UInt32
  deriving DecidableEq, Repr

/-- `DisplayModes::kModeMap`. -/
def kModeMap : List (Int32 × ModeInfo) :=
  [(0, ⟨"Vivid", 0, 0⟩), (1, ⟨"Natural", 1, 1⟩), (2, ⟨"Cinematic", 0, 1⟩),
    (3, ⟨"Brilliant", 4, 0⟩)]

/-- `id` is a key of `kModeMap`. -/
def IsKey (id : Int32) : Prop := (kModeMap.lookup id).isSome = true

instance (id : Int32) : Decidable (IsKey id) := inferInstanceAs (Decidable (_ = _))

/-- What `kModeMap.at` throws. -/
inductive MapError where
  | outOfRange
  deriving DecidableEq, Repr

/-- `kModeMap.at(id)`. -/
def kModeMapAt (id : Int32) : Except MapError ModeInfo :=
  match kModeMap.lookup id with
  | none => .error .outOfRange
  | some info => .ok info

/-! ## The object and what it talks to -/

/-- The local `std::ofstream defaultFile`, with what it has buffered. -/
structure OFStream where
  isOpen : Bool
  fail : Bool
  buffer : List Char
  deriving DecidableEq, Repr

/-- What `/dev/oplus_display` and the SDM controller were last set to. -/
structure Panel where
  seed : Option UInt32
  mode : Option Int32
  defaultMode : Option Int32
  deriving DecidableEq, Repr

/-- The members of `DisplayModes`, the panel, and the default-mode file
(`none` when there is none to read). `mOplusDisplayFd` and
`mOnDisplayModeSet` are known by the tests made on them. -/
structure Hal where
  displayFdOpen : Bool
  onDisplayModeSet : Bool
  mCurrentModeId : Int32
  mDefaultModeId : Int32
  panel : Panel
  file : Option (List Char)
  defaultFile : OFStream
  deriving DecidableEq, Repr

/-- The steps of `setDisplayMode`. -/
inductive Op where
  /-- `ioctl(mOplusDisplayFd, PANEL_IOCTL_SET_SEED, &seedMode)` -/
  | setSeed (seedMode : UInt32)
  /-- `mController->setActiveDisplayMode` -/
  | setActiveDisplayMode (displayModeId : Int32)
  /-- `mCurrentModeId = id` -/
  | assignCurrentModeId (id : Int32)
  /-- the constructor of `defaultFile`, which truncates the file -/
  | openDefaultFile
  /-- `defaultFile << id` -/
  | insertDefaultFile (id : Int32)
  /-- `defaultFile.fail()` -/
  | defaultFileFail
  /-- `mController->setDefaultDisplayMode` -/
  | setDefaultDisplayMode (displayModeId : Int32)
  /-- `mDefaultModeId = id` -/
  | assignDefaultModeId (id : Int32)
  /-- the destructor of `defaultFile`, which writes what is buffered -/
  | closeDefaultFile
  /-- `mOnDisplayModeSet()` -/
  | callOnDisplayModeSet

/-- What a step returns to the code. -/
def Op.Res : Op → Type
  | .setSeed _ => Bool
  | .setActiveDisplayMode _ => Bool
  | .setDefaultDisplayMode _ => Bool
  | .defaultFileFail => Bool
  | _ => Unit

namespace Hal

/-- One step of `setDisplayMode`, ended in the way `ok`. -/
def serve (s : Hal) : (op : Op) → Bool → Hal × op.Res
  | .setSeed seedMode, ok =>
      (if ok then { s with panel.seed := some seedMode } else s, ok)
  | .setActiveDisplayMode displayModeId, ok =>
      (if ok then { s with panel.mode := some displayModeId } else s, ok)
  | .assignCurrentModeId id, _ => ({ s with mCurrentModeId := id }, ())
  | .openDefaultFile, ok =>
      (if ok then { s with file := some [], defaultFile := ⟨true, false, []⟩ }
        else { s with defaultFile := ⟨false, true, []⟩ }, ())
  | .insertDefaultFile id, ok =>
      -- a stream that has failed takes nothing more
      (if s.defaultFile.fail then s
        else if ok then
          { s with defaultFile.buffer := s.defaultFile.buffer ++ toText id.toInt }
        else { s with defaultFile.fail := true }, ())
  | .defaultFileFail, _ => (s, s.defaultFile.fail)
  | .setDefaultDisplayMode displayModeId, ok =>
      (if ok then { s with panel.defaultMode := some displayModeId } else s, ok)
  | .assignDefaultModeId id, _ => ({ s with mDefaultModeId := id }, ())
  | .closeDefaultFile, ok =>
      (if s.defaultFile.isOpen && ok then
        { s with
          file := some (s.file.getD [] ++ s.defaultFile.buffer)
          defaultFile := ⟨false, s.defaultFile.fail, []⟩ }
        else { s with defaultFile := ⟨false, s.defaultFile.fail, []⟩ }, ())
  | .callOnDisplayModeSet, _ => (s, ())

end Hal

/-! ## The calls -/

/-- `ndk::ScopedAStatus` of a call that throws nothing. -/
abbrev HalProg := Prog Op Op.Res Empty

/-- The block under `if (makeDefault)`. -/
def storeDefault (id : Int32) (info : ModeInfo) : HalProg Unit := do
  let _ ← .perform .openDefaultFile
  let _ ← .perform (.insertDefaultFile id)
  let fail : Bool ← .perform Op.defaultFileFail
  if !fail then
    let _ ← .perform (.setDefaultDisplayMode info.displayModeId)
    let _ ← .perform (.assignDefaultModeId id)
  let _ ← .perform .closeDefaultFile

/-- `DisplayModes::setDisplayMode`. The results of the `ioctl` and of the
controller are dropped. -/
def setDisplayMode (s : Hal) (modeID : Int32) (makeDefault : Bool) : HalProg AStatus :=
  match kModeMap.lookup modeID with
  | none => .ret .exUnsupportedOperation
  | some info => do
      if s.displayFdOpen then
        let _ ← .perform (.setSeed info.seedMode)
      let _ ← .perform (.setActiveDisplayMode info.displayModeId)
      let _ ← .perform (.assignCurrentModeId modeID)
      if makeDefault then storeDefault modeID info
      if s.onDisplayModeSet then
        let _ ← .perform .callOnDisplayModeSet
      return .ok

/-! ## The parts of a call -/

/-- The part that moves the panel, up to `mCurrentModeId`. -/
def applyMode (s : Hal) (modeID : Int32) (info : ModeInfo) : HalProg Unit := do
  if s.displayFdOpen then
    let _ ← .perform (.setSeed info.seedMode)
  let _ ← .perform (.setActiveDisplayMode info.displayModeId)
  let _ ← .perform (.assignCurrentModeId modeID)

/-- The last part of a call. -/
def notify (s : Hal) : HalProg AStatus := do
  if s.onDisplayModeSet then
    let _ ← .perform .callOnDisplayModeSet
  return .ok

/-- **A call in three parts.** -/
theorem setDisplayMode_eq {modeID : Int32} {info : ModeInfo}
    (hmode : kModeMap.lookup modeID = some info) (s : Hal) (makeDefault : Bool) :
    setDisplayMode s modeID makeDefault =
      applyMode s modeID info >>= fun _ =>
        (if makeDefault then storeDefault modeID info else .ret ()) >>= fun _ => notify s := by
  rw [setDisplayMode, hmode, applyMode, notify]
  cases s.displayFdOpen <;> cases makeDefault <;> rfl

theorem setDisplayMode_of_none {modeID : Int32} (hmode : kModeMap.lookup modeID = none)
    (s : Hal) (makeDefault : Bool) :
    setDisplayMode s modeID makeDefault = .ret .exUnsupportedOperation := by
  rw [setDisplayMode, hmode]

/-- What `setDisplayMode(modeID, makeDefault)` does for the mode `info`. -/
def MayCall (modeID : Int32) (info : ModeInfo) (makeDefault : Bool) : Op → Prop
  | .setSeed seedMode => seedMode = info.seedMode
  | .setActiveDisplayMode displayModeId => displayModeId = info.displayModeId
  | .assignCurrentModeId id => id = modeID
  | .callOnDisplayModeSet => True
  | .openDefaultFile => makeDefault = true
  | .insertDefaultFile id => makeDefault = true ∧ id = modeID
  | .defaultFileFail => makeDefault = true
  | .setDefaultDisplayMode displayModeId =>
      makeDefault = true ∧ displayModeId = info.displayModeId
  | .assignDefaultModeId id => makeDefault = true ∧ id = modeID
  | .closeDefaultFile => makeDefault = true

section Calls

variable {modeID : Int32} {info : ModeInfo} {makeDefault : Bool}

theorem calls_applyMode (s : Hal) :
    (applyMode s modeID info).Calls (MayCall modeID info makeDefault) := by
  rw [applyMode]
  cases s.displayFdOpen with
  | false => exact ⟨rfl, fun _ => ⟨rfl, fun _ => trivial⟩⟩
  | true => exact ⟨rfl, fun _ => ⟨rfl, fun _ => ⟨rfl, fun _ => trivial⟩⟩⟩

theorem calls_storeDefault (id : Int32) (info : ModeInfo) :
    (storeDefault id info).Calls (MayCall id info true) := by
  refine ⟨rfl, fun _ => ⟨⟨rfl, rfl⟩, fun _ => ⟨rfl, fun (fail : Bool) => ?_⟩⟩⟩
  -- the destructor runs on both paths
  cases fail with
  | true => exact ⟨rfl, fun _ => trivial⟩
  | false => exact ⟨⟨rfl, rfl⟩, fun _ => ⟨⟨rfl, rfl⟩, fun _ => ⟨rfl, fun _ => trivial⟩⟩⟩

theorem calls_notify (s : Hal) : (notify s).Calls (MayCall modeID info makeDefault) := by
  rw [notify]
  cases s.onDisplayModeSet with
  | false => trivial
  | true => exact ⟨trivial, fun _ => trivial⟩

/-- **The steps of a call** are those of its mode, and the file is touched
only for `makeDefault`. -/
theorem calls_setDisplayMode (hmode : kModeMap.lookup modeID = some info) (s : Hal)
    (makeDefault : Bool) :
    (setDisplayMode s modeID makeDefault).Calls (MayCall modeID info makeDefault) := by
  rw [setDisplayMode_eq hmode]
  apply (calls_applyMode s).bind
  intro _
  cases makeDefault with
  | false => exact calls_notify s
  | true => exact (calls_storeDefault modeID info).bind fun _ => calls_notify s

end Calls

/-- `DisplayMode` of the interface. -/
structure DisplayMode where
  id : Int32
  name : String
  deriving DecidableEq, Repr

namespace Hal

/-- `DisplayModes::getCurrentDisplayMode`. -/
def getCurrentDisplayMode (s : Hal) : Except MapError DisplayMode := do
  return ⟨s.mCurrentModeId, (← kModeMapAt s.mCurrentModeId).name⟩

/-- `DisplayModes::getDefaultDisplayMode`. -/
def getDefaultDisplayMode (s : Hal) : Except MapError DisplayMode := do
  return ⟨s.mDefaultModeId, (← kModeMapAt s.mDefaultModeId).name⟩

end Hal

/-! ## The process -/

/-- `DisplayModes::DisplayModes` up to its last statement: what
`defaultFile >> mDefaultModeId` leaves in the member. -/
def readDefault (file : Option (List Char)) : Int32 :=
  match file with
  | none => 0
  | some text => extractInt32 0 text

/-- The object before the constructor's `setDisplayMode`. -/
def Hal.initial (displayFdOpen : Bool) (panel : Panel) (file : Option (List Char)) : Hal where
  displayFdOpen := displayFdOpen
  onDisplayModeSet := false
  mCurrentModeId := 0
  mDefaultModeId := readDefault file
  panel := panel
  file := file
  defaultFile := ⟨false, false, []⟩

/-- The service process, by what is left of the call it is in. -/
abbrev Service := Process Hal Op Op.Res Empty AStatus

/-- A client's call of `setDisplayMode`. -/
structure SetDisplayMode where
  modeID : Int32
  makeDefault : Bool
  deriving DecidableEq, Repr

/-- A call starts, or the next step of the running one ends. -/
abbrev ServiceEvent := ProcessEvent SetDisplayMode Bool

namespace Service

def step : Service → ServiceEvent → Option Service :=
  Process.step (fun s r => setDisplayMode s r.modeID r.makeDefault) Hal.serve

/-- The constructor, about to call `setDisplayMode(mDefaultModeId, false)`. -/
def boot (displayFdOpen : Bool) (panel : Panel) (file : Option (List Char)) : Service where
  store := .initial displayFdOpen panel file
  prog := setDisplayMode (.initial displayFdOpen panel file) (readDefault file) false

/-- **What the constructor may leave**: its `setDisplayMode` has returned,
and no client was served before that. -/
def Constructed (displayFdOpen : Bool) (panel : Panel) (file : Option (List Char))
    (p : Service) : Prop :=
  ∃ h, Path step (boot displayFdOpen panel file) h p ∧ p.idle = true ∧
    ∀ x ∈ h, x.2.isRequest = false

end Service

end OplusHardware.LiveDisplay
