import OplusHardware.AlertSlider.Overlay
import OplusHardware.Base.SerialExecutor

/-!
# AlertSlider — KeyHandler

The handler of the slider's keys. A move of the slider writes its position
to a node and raises a key event. The input thread and, once after boot,
the main thread read the node, look the configured mode up and submit a
task to a single-thread executor; the task sets the ringer and zen modes
and mutes the music. The threads, the executor, the system and the user
take their steps in any order.
-/

namespace OplusHardware.AlertSlider

open OplusHardware.Base

def ringerModeSilent : Int := 0
def ringerModeVibrate : Int := 1
def ringerModeNormal : Int := 2
def zenPriorityOnly : Int := 3
def zenTotalSilence : Int := 4
def zenAlarmsOnly : Int := 5
def zenOffset : Int := 2
/-- `Settings.Global.ZEN_MODE_OFF`. -/
def zenModeOff : Int := 0

def positionTop : Int := 1
def positionMiddle : Int := 2

/-- `AudioSystem.STREAM_MUSIC`. -/
def streamMusic : Int := 3

/-- A preference that holds a number as a text. -/
inductive NumberPref where
  | absent
  | number (value : Int)
  /-- A text that `toInt` throws on. -/
  | malformed
  deriving DecidableEq, Repr

/-- `getString` with its default, and `toInt`. -/
def NumberPref.toInt (default : Int) : NumberPref → Option Int
  | .absent => some default
  | .number value => some value
  | .malformed => none

structure Preferences where
  configTopPosition : NumberPref
  configMiddlePosition : NumberPref
  configBottomPosition : NumberPref
  configMuteMedia : Option Bool
  configShowDialog : Option Bool
  deriving DecidableEq, Repr

/-- Before the settings are first touched. -/
def defaultPreferences : Preferences := ⟨.absent, .absent, .absent, none, none⟩

/-- The mode that is configured for a position. -/
def Preferences.mode (p : Preferences) (position : Int) : Option Int :=
  if position = positionTop then p.configTopPosition.toInt 0
  else if position = positionMiddle then p.configMiddlePosition.toInt 1
  else if position = positionBottom then p.configBottomPosition.toInt 2
  else none

def isWhitespace (c : Char) : Bool :=
  c = ' ' || ('\t' ≤ c && c ≤ '\r') || ('\x1c' ≤ c && c ≤ '\x1f')

/-- `trim` of a text in ASCII. -/
def trimText (text : List Char) : List Char :=
  ((text.dropWhile isWhitespace).reverse.dropWhile isWhitespace).reverse

/-- The position that `populateKeyState` finds in the node's text. -/
def positionOf (text : List Char) : Option Int :=
  match trimText text with
  | ['1'] => some positionTop
  | ['2'] => some positionMiddle
  | ['3'] => some positionBottom
  | _ => none

/-- What `handleMode` submits. -/
structure Task where
  position : Int
  mode : Int
  muteMedia : Bool
  showDialog : Bool
  firstRun : Bool
  deriving DecidableEq, Repr

/-- `handleMode` up to its `submit`. -/
def handleMode (p : Preferences) (position : Int) (firstRun : Bool) : Option Task :=
  (p.mode position).map fun mode =>
    ⟨position, mode, p.configMuteMedia.getD false, p.configShowDialog.getD true, firstRun⟩

inductive Instr where
  /-- `notificationManager.setZenMode`. -/
  | requestZenMode (zenMode : Int)
  /-- The loop that waits for the mode. -/
  | awaitZenMode (zenMode : Int)
  | setRingerMode (mode : Int)
  /-- `adjustVolume(ADJUST_MUTE, 0)`. -/
  | adjustMute
  | setWasMuted
  /-- The test of `muteMedia && wasMuted`. -/
  | testWasMuted (muteMedia : Bool)
  /-- `adjustVolume(ADJUST_UNMUTE, 0)`. -/
  | adjustUnmute
  | sendNotification (position mode : Int)
  | vibrateIfNeeded (mode : Int)
  deriving DecidableEq, Repr

/-- `setZenMode`. -/
def setZenMode (zenMode : Int) : List Instr := [.requestZenMode zenMode, .awaitZenMode zenMode]

/-- The task's switch over the mode. -/
def switchMode (mode : Int) (muteMedia : Bool) : List Instr :=
  if mode = ringerModeSilent then
    setZenMode zenModeOff ++ [.setRingerMode mode] ++
      if muteMedia then [.adjustMute, .setWasMuted] else []
  else if mode = ringerModeVibrate ∨ mode = ringerModeNormal then
    setZenMode zenModeOff ++ [.setRingerMode mode, .testWasMuted muteMedia]
  else if mode = zenPriorityOnly ∨ mode = zenTotalSilence ∨ mode = zenAlarmsOnly then
    [.setRingerMode ringerModeNormal] ++ setZenMode (mode - zenOffset) ++
      [.testWasMuted muteMedia]
  else []

/-- What follows the switch. -/
def feedback (t : Task) : List Instr :=
  if t.firstRun then []
  else (if t.showDialog then [.sendNotification t.position t.mode] else []) ++
    [.vibrateIfNeeded t.mode]

def Task.program (t : Task) : List Instr := switchMode t.mode t.muteMedia ++ feedback t

/-- The ringer and zen modes a mode stands for. -/
def modesOf (mode : Int) : Option (Int × Int) :=
  if mode = ringerModeSilent ∨ mode = ringerModeVibrate ∨ mode = ringerModeNormal then
    some (mode, zenModeOff)
  else if mode = zenPriorityOnly ∨ mode = zenTotalSilence ∨ mode = zenAlarmsOnly then
    some (ringerModeNormal, mode - zenOffset)
  else none

/-- `STREAM_MUTE_CHANGED_ACTION`. -/
structure MuteChanged where
  stream : Int
  muted : Bool
  deriving DecidableEq, Repr

inductive VibrationEffect where
  | doubleClick
  | heavyClick
  deriving DecidableEq, Repr

/-- The threads that call `populateKeyState`: the input thread for a key,
the main thread after boot. -/
inductive Thread where
  | input
  | main
  deriving DecidableEq, Repr

/-- A `populateKeyState` in progress: the number of its read of the node,
what it read, and the task once the preferences are read. -/
structure Handling where
  read : Nat
  text : List Char
  task : Option Task
  deriving DecidableEq, Repr

/-- The handler, the node, the preferences and the system. -/
structure KeyHandler where
  preferences : Preferences
  /-- `/proc/tristatekey/tri_state`. -/
  node : List Char
  /-- Key events of the slider that wait for the input thread. -/
  keyEvents : Nat
  /-- `ACTION_BOOT_COMPLETED` is still to be received. -/
  bootPending : Bool
  handling : Thread → Option Handling
  executorService : SerialExecutor Task Instr
  wasMuted : Bool
  ringerMode : Int
  zenMode : Int
  /-- The zen modes that were requested and are not committed. -/
  requests : List Int
  /-- The mute flag of the music stream. -/
  muted : Bool
  /-- Changes of mute flags that the receiver has not been told of. -/
  broadcasts : List MuteChanged
  sent : List NotificationInfo
  vibrations : List VibrationEffect
  /-- Reads of the node so far, and the last text read. -/
  reads : Nat
  lastText : List Char
  /-- The newest read that was submitted, with its position. -/
  newest : Option (Nat × Int)
  /-- What the user last set the mute flag to. -/
  userMute : Bool

namespace KeyHandler

variable {s t : KeyHandler}

/-- A handler made on a system that is at rest. -/
def construct (preferences : Preferences) (node : List Char) (ringerMode zenMode : Int)
    (muted : Bool) : KeyHandler where
  preferences := preferences
  node := node
  keyEvents := 0
  bootPending := true
  handling := fun _ => none
  executorService := .idle
  wasMuted := false
  ringerMode := ringerMode
  zenMode := zenMode
  requests := []
  muted := muted
  broadcasts := []
  sent := []
  vibrations := []
  reads := 0
  lastText := []
  newest := none
  userMute := muted

/-! ## The threads -/

def setHandling (s : KeyHandler) (thread : Thread) (x : Option Handling) : KeyHandler :=
  { s with handling := Function.update s.handling thread x }

/-- A thread takes its event and reads the node. -/
def readNode (s : KeyHandler) (thread : Thread) : KeyHandler :=
  { s.setHandling thread (some ⟨s.reads + 1, s.node, none⟩) with
    reads := s.reads + 1
    lastText := s.node }

/-- A thread looks the mode up; where there is none it is done. -/
def readPreferences (s : KeyHandler) (thread : Thread) (x : Handling) : KeyHandler :=
  match (positionOf x.text).bind fun p => handleMode s.preferences p (thread = .main) with
  | some task => s.setHandling thread (some { x with task := some task })
  | none => s.setHandling thread none

/-- A submitted task, if it comes of the newest read so far. -/
def noteSubmitted (newest : Option (Nat × Int)) (read : Nat) (position : Int) :
    Option (Nat × Int) :=
  match newest with
  | some (m, p) => if m < read then some (read, position) else some (m, p)
  | none => some (read, position)

def submit (s : KeyHandler) (thread : Thread) (x : Handling) (task : Task) : KeyHandler :=
  { s.setHandling thread none with
    executorService := s.executorService.submit task
    newest := noteSubmitted s.newest x.read task.position }

/-! ## The executor -/

/-- The mute flag of the music stream is set; a change is broadcast. -/
def setMuted (s : KeyHandler) (v : Bool) : KeyHandler :=
  { s with
    muted := v
    broadcasts := if s.muted = v then s.broadcasts else s.broadcasts ++ [⟨streamMusic, v⟩] }

/-- The effect `vibrateIfNeeded` plays. -/
def modeEffect (mode : Int) : List VibrationEffect :=
  if mode = ringerModeVibrate then [.doubleClick]
  else if mode = ringerModeNormal then [.heavyClick]
  else []

/-- One instruction of the running task, with `is` behind it. -/
def runInstr (s : KeyHandler) (is : List Instr) : Instr → KeyHandler
  | .requestZenMode z =>
      { s with
        requests := s.requests ++ [z]
        executorService := s.executorService.goOn is }
  | .awaitZenMode z =>
      -- an unequal sample: the loop sleeps and samples again
      if s.zenMode = z then { s with executorService := s.executorService.goOn is } else s
  | .setRingerMode mode =>
      { s with ringerMode := mode, executorService := s.executorService.goOn is }
  | .adjustMute => { s.setMuted true with executorService := s.executorService.goOn is }
  | .setWasMuted => { s with wasMuted := true, executorService := s.executorService.goOn is }
  | .testWasMuted muteMedia =>
      { s with
        executorService := s.executorService.goOn
          (if muteMedia && s.wasMuted then .adjustUnmute :: is else is) }
  | .adjustUnmute => { s.setMuted false with executorService := s.executorService.goOn is }
  | .sendNotification position mode =>
      { s with
        sent := s.sent ++ [⟨position, mode⟩]
        executorService := s.executorService.goOn is }
  | .vibrateIfNeeded mode =>
      { s with
        vibrations := s.vibrations ++ modeEffect mode
        executorService := s.executorService.goOn is }

/-- The executor's thread goes on. -/
def exec (s : KeyHandler) : Option KeyHandler :=
  match s.executorService with
  | ⟨_, i :: is⟩ => some (s.runInstr is i)
  | ⟨task :: q, []⟩ => some { s with executorService := ⟨q, task.program⟩ }
  | ⟨[], []⟩ => none

/-! ## The steps -/

/-- `onReceive` of a mute broadcast. -/
def onMuteChanged (s : KeyHandler) (b : MuteChanged) : KeyHandler :=
  if b.stream = streamMusic && !b.muted then { s with wasMuted := false } else s

inductive Action where
  /-- The slider moves, and a key event is raised. -/
  | slide (text : List Char)
  | setPreferences (p : Preferences)
  | readNode (thread : Thread)
  | readPreferences (thread : Thread)
  | submit (thread : Thread)
  | exec
  /-- A requested zen mode is committed. -/
  | commitZen (k : Nat)
  /-- Another app or the user sets the zen mode. -/
  | otherZen (zenMode : Int)
  | userMute (v : Bool)
  /-- The mute flag of another stream changes. -/
  | otherStream (stream : Int) (muted : Bool)
  /-- The oldest broadcast is received. -/
  | broadcast
  deriving DecidableEq, Repr

def step (s : KeyHandler) : Action → Option KeyHandler
  | .slide text => some { s with node := text, keyEvents := s.keyEvents + 1 }
  | .setPreferences p => some { s with preferences := p }
  | .readNode .input =>
      if s.keyEvents ≠ 0 ∧ s.handling .input = none then
        some { s.readNode .input with keyEvents := s.keyEvents - 1 }
      else none
  | .readNode .main =>
      if s.bootPending ∧ s.handling .main = none then
        some { s.readNode .main with bootPending := false }
      else none
  | .readPreferences thread =>
      match s.handling thread with
      | some x => if x.task = none then some (s.readPreferences thread x) else none
      | none => none
  | .submit thread =>
      match s.handling thread with
      | some x => x.task.map (s.submit thread x)
      | none => none
  | .exec => s.exec
  | .commitZen k =>
      s.requests[k]?.map fun z => { s with zenMode := z, requests := s.requests.eraseIdx k }
  | .otherZen zenMode => some { s with zenMode := zenMode }
  | .userMute v => some { s.setMuted v with userMute := v }
  | .otherStream stream muted =>
      if stream = streamMusic then none
      else some { s with broadcasts := s.broadcasts ++ [⟨stream, muted⟩] }
  | .broadcast =>
      -- the receiver runs on the main thread
      match s.handling .main, s.broadcasts with
      | none, b :: bs => some ({ s with broadcasts := bs }.onMuteChanged b)
      | _, _ => none

/-- **Drained**: every event is handled, nothing is queued or running, and
every broadcast was received. -/
structure Drained (s : KeyHandler) : Prop where
  keyEvents : s.keyEvents = 0
  boot : s.bootPending = false
  handling : ∀ thread, s.handling thread = none
  queue : s.executorService.queue = []
  running : s.executorService.running = []
  requests : s.requests = []
  broadcasts : s.broadcasts = []

theorem drained_iff :
    s.Drained ↔ s.keyEvents = 0 ∧ s.bootPending = false ∧ s.handling .input = none ∧
      s.handling .main = none ∧ s.executorService = .idle ∧ s.requests = [] ∧
      s.broadcasts = [] := by
  constructor
  · rintro ⟨hkeys, hboot, hidle, hqueue, hrun, hreqs, hbs⟩
    refine ⟨hkeys, hboot, hidle .input, hidle .main, ?_, hreqs, hbs⟩
    cases he : s.executorService with
    | mk q is =>
        rw [he] at hqueue hrun
        rw [show q = [] from hqueue, show is = [] from hrun]
        rfl
  · rintro ⟨hkeys, hboot, hinput, hmain, he, hreqs, hbs⟩
    refine ⟨hkeys, hboot, ?_, by rw [he]; rfl, by rw [he]; rfl, hreqs, hbs⟩
    intro thread
    cases thread with
    | input => exact hinput
    | main => exact hmain

instance : Decidable s.Drained := decidable_of_iff _ drained_iff.symm

/-! ## What a step does -/

/-- **The ways a step goes.** -/
inductive StepCase (s : KeyHandler) : Action → KeyHandler → Prop where
  | slide (text : List Char) :
      StepCase s (.slide text) { s with node := text, keyEvents := s.keyEvents + 1 }
  | setPreferences (p : Preferences) :
      StepCase s (.setPreferences p) { s with preferences := p }
  | readInput (hkey : s.keyEvents ≠ 0) (hidle : s.handling .input = none) :
      StepCase s (.readNode .input) { s.readNode .input with keyEvents := s.keyEvents - 1 }
  | readMain (hboot : s.bootPending = true) (hidle : s.handling .main = none) :
      StepCase s (.readNode .main) { s.readNode .main with bootPending := false }
  | readPreferences (thread : Thread) {x : Handling} (hx : s.handling thread = some x)
      (htask : x.task = none) :
      StepCase s (.readPreferences thread) (s.readPreferences thread x)
  | submit (thread : Thread) {x : Handling} {task : Task}
      (hx : s.handling thread = some x) (htask : x.task = some task) :
      StepCase s (.submit thread) (s.submit thread x task)
  | start {task : Task} {q : List Task} (hrun : s.executorService.running = [])
      (hq : s.executorService.queue = task :: q) :
      StepCase s .exec { s with executorService := ⟨q, task.program⟩ }
  | run {i : Instr} {is : List Instr} (hrun : s.executorService.running = i :: is) :
      StepCase s .exec (s.runInstr is i)
  | commitZen {k : Nat} {z : Int} (hz : s.requests[k]? = some z) :
      StepCase s (.commitZen k) { s with zenMode := z, requests := s.requests.eraseIdx k }
  | otherZen (z : Int) : StepCase s (.otherZen z) { s with zenMode := z }
  | userMute (v : Bool) : StepCase s (.userMute v) { s.setMuted v with userMute := v }
  | otherStream {stream : Int} (muted : Bool) (hne : stream ≠ streamMusic) :
      StepCase s (.otherStream stream muted)
        { s with broadcasts := s.broadcasts ++ [⟨stream, muted⟩] }
  | broadcast {b : MuteChanged} {bs : List MuteChanged} (hidle : s.handling .main = none)
      (hb : s.broadcasts = b :: bs) :
      StepCase s .broadcast ({ s with broadcasts := bs }.onMuteChanged b)

theorem exec_cases (hs : s.exec = some t) : StepCase s .exec t := by
  unfold exec at hs
  split at hs
  · rename_i q i is he
    cases hs
    refine .run ?_
    rw [he]
  · rename_i task q he
    cases hs
    refine .start ?_ ?_ <;> rw [he]
  · cases hs

theorem step_cases {a : Action} (hs : step s a = some t) : StepCase s a t := by
  cases a with
  | slide text =>
      cases hs
      exact .slide text
  | setPreferences p =>
      cases hs
      exact .setPreferences p
  | readNode thread =>
      cases thread with
      | input =>
          simp only [step] at hs
          split at hs
          · rename_i hg
            cases hs
            exact .readInput hg.1 hg.2
          · cases hs
      | main =>
          simp only [step] at hs
          split at hs
          · rename_i hg
            cases hs
            exact .readMain hg.1 hg.2
          · cases hs
  | readPreferences thread =>
      simp only [step] at hs
      split at hs
      · rename_i x hx
        split at hs
        · rename_i htask
          cases hs
          exact .readPreferences thread hx htask
        · cases hs
      · cases hs
  | submit thread =>
      simp only [step] at hs
      split at hs
      · rename_i x hx
        obtain ⟨task, htask, rfl⟩ := Option.map_eq_some_iff.mp hs
        exact .submit thread hx htask
      · cases hs
  | exec => exact exec_cases hs
  | commitZen k =>
      obtain ⟨z, hz, rfl⟩ := Option.map_eq_some_iff.mp hs
      exact .commitZen hz
  | otherZen z =>
      cases hs
      exact .otherZen z
  | userMute v =>
      cases hs
      exact .userMute v
  | otherStream stream muted =>
      simp only [step] at hs
      split at hs
      · cases hs
      · rename_i hne
        cases hs
        exact .otherStream muted hne
  | broadcast =>
      simp only [step] at hs
      split at hs
      · rename_i b bs hidle hb
        cases hs
        exact .broadcast hidle hb
      · cases hs

end KeyHandler

end OplusHardware.AlertSlider
