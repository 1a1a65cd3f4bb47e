import OplusHardware.Base.MessageQueue
import OplusHardware.Base.Path

/-!
# AlertSlider — AlertSliderPlugin

The overlay that shows the position of the alert slider: the receiver of
`AlertSliderPlugin` and its `NotificationHandler`, on the queue of the
main thread. Receiver and handlers run one at a time.
-/

namespace OplusHardware.AlertSlider

open OplusHardware.Base

def modeNone : Int := -1
def positionBottom : Int := 3
def dialogTimeout : Nat := 3000

structure NotificationInfo where
  position : Int
  mode : Int
  deriving DecidableEq, Repr

/-- The kinds of messages of the handler. -/
inductive Msg where
  | dialogShow
  | dialogDismiss
  | dialogReset
  | dialogUpdate (info : NotificationInfo)
  | dialogRecreate
  deriving DecidableEq, Repr

def Msg.isShow : Msg → Bool
  | .dialogShow => true
  | _ => false

def Msg.isDismiss : Msg → Bool
  | .dialogDismiss => true
  | _ => false

def Msg.isReset : Msg → Bool
  | .dialogReset => true
  | _ => false

def Msg.isUpdate : Msg → Bool
  | .dialogUpdate _ => true
  | _ => false

/-- What `handleRecreate` reads of the display and the resources. -/
structure Configuration where
  densityDpi : Int
  rotation : Int
  smallestScreenWidthDp : Int
  uiMode : Int
  deriving DecidableEq, Repr

/-- A dialog object, by its number, and what its last `setState` was
given. -/
structure AlertSliderDialog where
  id : Nat
  state : Option NotificationInfo
  deriving DecidableEq, Repr

/-- The handler, its queue, the clock and the screen. -/
structure NotificationHandler where
  /-- `SystemClock.uptimeMillis()`. -/
  now : Nat
  queue : MessageQueue Msg
  dialog : AlertSliderDialog
  /-- Dialog objects made so far. -/
  created : Nat
  /-- The numbers of the dialogs that are shown. -/
  onScreen : List Nat
  /-- `currDensity`, `currRotation`, `currSmallestWidth`, `currUIMode`. -/
  curr : Configuration
  lastInfo : Option NotificationInfo
  showing : Bool
  /-- The configuration of the system. -/
  config : Configuration

namespace NotificationHandler

variable {s : NotificationHandler}

/-- A new plugin. -/
def construct (now : Nat) (config : Configuration) : NotificationHandler where
  now := now
  queue := .empty
  dialog := ⟨0, none⟩
  created := 1
  onScreen := []
  curr := config
  lastInfo := none
  showing := false
  config := config

/-! ## The dialog -/

def showDialog (s : NotificationHandler) : NotificationHandler :=
  { s with onScreen := s.dialog.id :: s.onScreen.filter (· ≠ s.dialog.id) }

def dismissDialog (s : NotificationHandler) : NotificationHandler :=
  { s with onScreen := s.onScreen.filter (· ≠ s.dialog.id) }

def setState (s : NotificationHandler) (info : NotificationInfo) : NotificationHandler :=
  { s with dialog := { s.dialog with state := some info } }

/-- `dialog = AlertSliderDialog(context)`. -/
def newDialog (s : NotificationHandler) : NotificationHandler :=
  { s with dialog := ⟨s.created, none⟩, created := s.created + 1 }

/-! ## The handlers -/

def removeMessages (s : NotificationHandler) (p : Msg → Bool) : NotificationHandler :=
  { s with queue := s.queue.remove p }

def sendMessageDelayed (s : NotificationHandler) (what : Msg) (delay : Nat) :
    NotificationHandler :=
  { s with queue := s.queue.post what (s.now + delay) }

def handleResetTimeout (s : NotificationHandler) : NotificationHandler :=
  (s.removeMessages Msg.isDismiss).sendMessageDelayed .dialogDismiss dialogTimeout

/-- The setter of `showing`. -/
def setShowing (s : NotificationHandler) (value : Bool) : NotificationHandler :=
  if s.showing ≠ value then
    let s := ((s.removeMessages Msg.isShow).removeMessages Msg.isDismiss).removeMessages
      Msg.isReset
    if value then { s.handleResetTimeout.showDialog with showing := true }
    else { s.dismissDialog with showing := false }
  else s

def handleShow (s : NotificationHandler) : NotificationHandler := s.setShowing true

def handleDismiss (s : NotificationHandler) : NotificationHandler := s.setShowing false

def handleUpdate (s : NotificationHandler) (info : NotificationInfo) : NotificationHandler :=
  ({ s with lastInfo := some info }.handleResetTimeout).setState info

/-- `lastInfo?.let { dialog.setState(it.position, it.mode) }`. -/
def restoreState (s : NotificationHandler) : NotificationHandler :=
  match s.lastInfo with
  | some info => s.setState info
  | none => s

/-- `densityChanged || layoutChanged || rotationChanged || themeChanged`. -/
def configChanged (s : NotificationHandler) : Bool :=
  s.config.densityDpi ≠ s.curr.densityDpi ||
    s.config.smallestScreenWidthDp ≠ s.curr.smallestScreenWidthDp ||
    s.config.rotation ≠ s.curr.rotation || s.config.uiMode ≠ s.curr.uiMode

/-- The dialog is taken down and replaced by a new one with its state. -/
def replaceDialog (s : NotificationHandler) : NotificationHandler :=
  (s.setShowing false).newDialog.restoreState

/-- `currDensity = density` and the like. -/
def keepConfig (s : NotificationHandler) : NotificationHandler :=
  { s with curr := s.config }

def handleRecreate (s : NotificationHandler) : NotificationHandler :=
  if s.configChanged then
    if s.showing then (s.replaceDialog.setShowing true).keepConfig
    else s.replaceDialog.keepConfig
  else s

def handleMessage (s : NotificationHandler) : Msg → NotificationHandler
  | .dialogShow => s.handleShow
  | .dialogDismiss => s.handleDismiss
  | .dialogReset => s.handleResetTimeout
  | .dialogUpdate info => s.handleUpdate info
  | .dialogRecreate => s.handleRecreate

/-! ## The machine -/

inductive Action where
  /-- `KeyHandler.CHANGED_ACTION` with its extras, where they are present;
  `between` is the time between the two posts. -/
  | changedAction (position mode : Option Int) (between : Nat)
  /-- `Intent.ACTION_CONFIGURATION_CHANGED`. -/
  | configurationChanged
  /-- The configuration of the system changes. -/
  | setConfiguration (config : Configuration)
  /-- The first message is due and is handled. -/
  | deliver
  /-- Time passes. -/
  | tick (ms : Nat)
  deriving DecidableEq, Repr

/-- The information a broadcast carries, with the defaults of the
receiver. -/
def info (position mode : Option Int) : NotificationInfo :=
  ⟨position.getD positionBottom, mode.getD modeNone⟩

/-- `onReceive` for `CHANGED_ACTION`. -/
def onChanged (s : NotificationHandler) (position mode : Option Int) (between : Nat) :
    NotificationHandler :=
  if mode.getD modeNone = modeNone then s
  else
    { s.sendMessageDelayed (.dialogUpdate (info position mode)) 0 with
      now := s.now + between }.sendMessageDelayed .dialogShow 0

def step (s : NotificationHandler) : Action → Option NotificationHandler
  | .changedAction position mode between => some (s.onChanged position mode between)
  | .configurationChanged => some (s.sendMessageDelayed .dialogRecreate 0)
  | .setConfiguration config => some { s with config := config }
  | .deliver =>
      match s.queue.pop with
      | none => none
      | some (m, rest) =>
          if m.due ≤ s.now then some ({ s with queue := rest }.handleMessage m.what) else none
  | .tick ms => some { s with now := s.now + ms }

/-! ## What a handler can do -/

/-- What the setter of `showing` removes. -/
def cleared (q : MessageQueue Msg) : MessageQueue Msg :=
  ((q.remove Msg.isShow).remove Msg.isDismiss).remove Msg.isReset

/-- What `handleResetTimeout` leaves. -/
def rearmed (q : MessageQueue Msg) (now : Nat) : MessageQueue Msg :=
  (q.remove Msg.isDismiss).post .dialogDismiss (now + dialogTimeout)

theorem mem_cleared {q : MessageQueue Msg} {m : Message Msg} :
    m ∈ cleared q ↔ m ∈ q ∧ m.what.isShow = false ∧ m.what.isDismiss = false ∧
      m.what.isReset = false := by
  simp only [cleared, MessageQueue.mem_remove, and_assoc]

theorem mem_rearmed {q : MessageQueue Msg} {now : Nat} {m : Message Msg} :
    m ∈ rearmed q now ↔ m = ⟨.dialogDismiss, now + dialogTimeout, q.nextSeq⟩ ∨
      (m ∈ q ∧ m.what.isDismiss = false) := by
  simp only [rearmed, MessageQueue.mem_post, MessageQueue.mem_remove,
    MessageQueue.nextSeq_remove]

@[simp] theorem nextSeq_cleared {q : MessageQueue Msg} :
    (cleared q).nextSeq = q.nextSeq := rfl

@[simp] theorem nextSeq_rearmed {q : MessageQueue Msg} {now : Nat} :
    (rearmed q now).nextSeq = q.nextSeq + 1 := rfl

theorem count_dismiss_cleared {q : MessageQueue Msg} :
    (cleared q).count Msg.isDismiss = 0 := by
  rw [MessageQueue.count_eq_zero]
  exact fun m hm => (mem_cleared.mp hm).2.2.1

theorem count_dismiss_rearmed {q : MessageQueue Msg} {now : Nat} :
    (rearmed q now).count Msg.isDismiss = 1 := by
  rw [rearmed, MessageQueue.count_post, MessageQueue.count_remove_of_imp fun _ h => h]
  rfl

/-- **The effect of each handler**, by the branch it takes. -/
inductive Handled (s : NotificationHandler) : Msg → NotificationHandler → Prop where
  | showAgain (hs : s.showing = true) : Handled s .dialogShow s
  | showNow (hs : s.showing = false) :
      Handled s .dialogShow
        { s with
          queue := rearmed (cleared s.queue) s.now
          onScreen := s.dialog.id :: s.onScreen.filter (· ≠ s.dialog.id)
          showing := true }
  | dismissAgain (hs : s.showing = false) : Handled s .dialogDismiss s
  | dismissNow (hs : s.showing = true) :
      Handled s .dialogDismiss
        { s with
          queue := cleared s.queue
          onScreen := s.onScreen.filter (· ≠ s.dialog.id)
          showing := false }
  | reset : Handled s .dialogReset { s with queue := rearmed s.queue s.now }
  | update (i : NotificationInfo) :
      Handled s (.dialogUpdate i)
        { s with
          queue := rearmed s.queue s.now
          lastInfo := some i
          dialog := ⟨s.dialog.id, some i⟩ }
  | recreateSame : Handled s .dialogRecreate s
  | recreateHidden (hs : s.showing = false) :
      Handled s .dialogRecreate
        { s with
          dialog := ⟨s.created, s.lastInfo⟩
          created := s.created + 1
          curr := s.config }
  | recreateShown (hs : s.showing = true) :
      Handled s .dialogRecreate
        { s with
          queue := rearmed (cleared (cleared s.queue)) s.now
          dialog := ⟨s.created, s.lastInfo⟩
          created := s.created + 1
          onScreen := s.created ::
            (s.onScreen.filter (· ≠ s.dialog.id)).filter (· ≠ s.created)
          curr := s.config }

theorem setShowing_same {value : Bool} (h : s.showing = value) : s.setShowing value = s := by
  rw [setShowing, if_neg (not_not.mpr h)]

theorem setShowing_true (h : s.showing = false) :
    s.setShowing true =
      { s with
        queue := rearmed (cleared s.queue) s.now
        onScreen := s.dialog.id :: s.onScreen.filter (· ≠ s.dialog.id)
        showing := true } := by
  rw [setShowing, if_pos (by simp [h])]
  rfl

theorem setShowing_false (h : s.showing = true) :
    s.setShowing false =
      { s with
        queue := cleared s.queue
        onScreen := s.onScreen.filter (· ≠ s.dialog.id)
        showing := false } := by
  rw [setShowing, if_pos (by simp [h])]
  rfl

/-- The new dialog of `handleRecreate` gets the state of the old one. -/
theorem restoreState_newDialog :
    s.newDialog.restoreState =
      { s with dialog := ⟨s.created, s.lastInfo⟩, created := s.created + 1 } := by
  unfold restoreState
  cases h : s.newDialog.lastInfo with
  | none =>
      have h' : s.lastInfo = none := h
      simp only [newDialog, h']
  | some i =>
      have h' : s.lastInfo = some i := h
      simp only [newDialog, setState, h']

theorem handled_recreate (s : NotificationHandler) :
    Handled s .dialogRecreate s.handleRecreate := by
  unfold handleRecreate
  split
  · unfold replaceDialog
    split
    · rename_i hs
      rw [setShowing_false hs, restoreState_newDialog, setShowing_true rfl]
      have h := Handled.recreateShown hs
      simpa only [hs, keepConfig] using h
    · rename_i hs
      have hs := Bool.eq_false_of_not_eq_true hs
      rw [setShowing_same hs, restoreState_newDialog]
      exact .recreateHidden hs
  · exact .recreateSame

theorem handleMessage_cases (s : NotificationHandler) (w : Msg) :
    Handled s w (s.handleMessage w) := by
  cases w with
  | dialogShow =>
      show Handled s .dialogShow (s.setShowing true)
      cases hs : s.showing with
      | true =>
          rw [setShowing_same hs]
          exact .showAgain hs
      | false =>
          rw [setShowing_true hs]
          exact .showNow hs
  | dialogDismiss =>
      show Handled s .dialogDismiss (s.setShowing false)
      cases hs : s.showing with
      | true =>
          rw [setShowing_false hs]
          exact .dismissNow hs
      | false =>
          rw [setShowing_same hs]
          exact .dismissAgain hs
  | dialogReset => exact .reset
  | dialogUpdate i => exact .update i
  | dialogRecreate => exact handled_recreate s

/-- A delivery takes the first message out and handles it. -/
theorem deliver_inv {s t : NotificationHandler} (hs : s.step .deliver = some t) :
    ∃ m rest, s.queue.pop = some (m, rest) ∧ m.due ≤ s.now ∧
      Handled { s with queue := rest } m.what t := by
  rw [step] at hs
  split at hs
  · cases hs
  · rename_i m rest hpop
    simp only [Option.ite_none_right_eq_some, Option.some.injEq] at hs
    obtain ⟨hdue, rfl⟩ := hs
    exact ⟨m, rest, hpop, hdue, handleMessage_cases _ _⟩

/-- The message a step delivers. -/
def delivered (x : NotificationHandler × Action) : Option (Message Msg) :=
  match x.2 with
  | .deliver => x.1.queue.pop.map (·.1)
  | _ => none

end NotificationHandler

end OplusHardware.AlertSlider
