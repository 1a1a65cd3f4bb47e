import OplusHardware.Base.Path

/-!
# Fingerprint — BiometricsFingerprint

`class BiometricsFingerprint` (HIDL): every call is forwarded to the
vendor HAL, and every callback of the vendor HAL to the client. Some of
them switch the panel on the way, the high-brightness dim layer and the
press state of an optical sensor.

What the vendor HAL answers to a call is an argument of that call; what it
calls back, and when, is the order of the events.
-/

namespace OplusHardware.Fingerprint

open OplusHardware.Base

/-! ## The device -/

/-- The system properties that the service reads. -/
structure Device where
  sensor_type : String
  version : String
  deriving DecidableEq, Repr

/-- What the panel was last set to. -/
structure Panel where
  dimlayerHbm : Option UInt32
  fpPress : Option UInt32
  deriving DecidableEq, Repr

/-- The statuses of the fingerprint interface, by their numbers. -/
abbrev RequestStatus := Int32

def SYS_OK : RequestStatus := 0

namespace Device

variable (dev : Device)

/-- `isUdfps()`. -/
def isUdfps : Bool := dev.sensor_type == "optical"

/-- `isUff()`. -/
def isUff : Bool := dev.version.startsWith "UFF "

/-- `setDimlayerHbm`, on a panel whose ioctls work. -/
def setDimlayerHbm (value : UInt32) : StateM Panel Bool := do
  if dev.isUdfps then
    modify fun s => { s with dimlayerHbm := some value }
    return true
  else return false

/-- `setFpPress`, on a panel whose ioctls work. -/
def setFpPress (value : UInt32) : StateM Panel Bool := do
  if dev.isUdfps then
    modify fun s => { s with fpPress := some value }
    return true
  else return false

/-! ## Client calls -/

def preEnroll (vendor : UInt64) : StateM Panel UInt64 := do
  let _ ← dev.setDimlayerHbm 1
  return vendor

def postEnroll (vendor : RequestStatus) : StateM Panel RequestStatus := do
  let _ ← dev.setDimlayerHbm 0
  return vendor

def cancel (vendor : RequestStatus) : StateM Panel RequestStatus := do
  let _ ← dev.setDimlayerHbm 0
  return vendor

def authenticate (vendor : RequestStatus) : StateM Panel RequestStatus := do
  let _ ← dev.setDimlayerHbm 1
  return vendor

/-- Whether the vendor HAL is told of the finger is the result. -/
def onFingerDown : StateM Panel Bool := do
  let _ ← dev.setFpPress 1
  return !dev.isUff

def onFingerUp : StateM Panel Bool := do
  let _ ← dev.setFpPress 0
  return !dev.isUff

/-! ## Vendor callbacks -/

def onAuthenticated (fingerId : UInt32) : StateM Panel Unit := do
  if fingerId ≠ 0 then
    let _ ← dev.setDimlayerHbm 0
  let _ ← dev.setFpPress 0

def onError : StateM Panel Unit := do
  let _ ← dev.setDimlayerHbm 0
  let _ ← dev.setFpPress 0

end Device

/-! ## Events and sessions -/

/-- A call of the client, with what the vendor HAL answers, or a callback
of the vendor HAL. -/
inductive Event where
  | preEnroll (vendor : UInt64)
  | postEnroll (vendor : RequestStatus)
  | cancel (vendor : RequestStatus)
  | authenticate (vendor : RequestStatus)
  | onFingerDown
  | onFingerUp
  | onAuthenticated (fingerId : UInt32)
  | onError
  /-- a call or a callback that is only passed on -/
  | forward
  deriving DecidableEq, Repr

/-- The service on an event. -/
def Event.handle (dev : Device) (s : Panel) : Event → Panel
  | .preEnroll vendor => ((dev.preEnroll vendor).run s).2
  | .postEnroll vendor => ((dev.postEnroll vendor).run s).2
  | .cancel vendor => ((dev.cancel vendor).run s).2
  | .authenticate vendor => ((dev.authenticate vendor).run s).2
  | .onFingerDown => (dev.onFingerDown.run s).2
  | .onFingerUp => (dev.onFingerUp.run s).2
  | .onAuthenticated fingerId => ((dev.onAuthenticated fingerId).run s).2
  | .onError => (dev.onError.run s).2
  | .forward => s

/-- **What a session is**: enrolment, or an authentication that the vendor
HAL has taken up, until it is ended, cancelled, failed or matched. -/
def Event.session (opened : Bool) : Event → Bool
  | .preEnroll _ => true
  | .authenticate vendor => opened || vendor == SYS_OK
  | .postEnroll _ => false
  | .cancel _ => false
  | .onError => false
  | .onAuthenticated fingerId => opened && fingerId == 0
  | .onFingerDown => opened
  | .onFingerUp => opened
  | .forward => opened

structure State where
  panel : Panel
  session : Bool
  deriving DecidableEq, Repr

/-- Before the first call. -/
def initial : State := ⟨⟨none, none⟩, false⟩

/-- Calls and callbacks come one after another, in any order. -/
def step (dev : Device) (s : State) (e : Event) : Option State :=
  some ⟨e.handle dev s.panel, e.session s.session⟩

/-! ## What an event does to the dim layer -/

/-- What the service sets the dim layer to, if it does. -/
def Event.dimlayer : Event → Option UInt32
  | .preEnroll _ => some 1
  | .authenticate _ => some 1
  | .postEnroll _ => some 0
  | .cancel _ => some 0
  | .onError => some 0
  | .onAuthenticated fingerId => if fingerId ≠ 0 then some 0 else none
  | .onFingerDown => none
  | .onFingerUp => none
  | .forward => none

variable {dev : Device} {s : Panel} {e : Event}

/-- **Every event sets the dim layer to its own value**, or leaves it. -/
theorem handle_dimlayerHbm (hdev : dev.sensor_type = "optical") :
    (e.handle dev s).dimlayerHbm = (e.dimlayer <|> s.dimlayerHbm) := by
  have hudfps : dev.isUdfps = true := by rw [Device.isUdfps, hdev]; rfl
  cases e with
  | forward => rfl
  | onAuthenticated fingerId =>
      by_cases hid : fingerId = 0
      · simp [Event.handle, Device.onAuthenticated, Device.setFpPress, Event.dimlayer, hudfps,
          hid]
        rfl
      · simp [Event.handle, Device.onAuthenticated, Device.setDimlayerHbm, Device.setFpPress,
          Event.dimlayer, hudfps, hid]
        rfl
  | _ =>
      simp [Event.handle, Device.preEnroll, Device.postEnroll, Device.cancel,
        Device.authenticate, Device.onFingerDown, Device.onFingerUp, Device.onError,
        Device.setDimlayerHbm, Device.setFpPress, Event.dimlayer, hudfps]
      rfl

/-! ## The dim layer over a run -/

/-- **The dim layer follows the session**: it is on only in one. -/
def Follows (s : State) : Prop := s.panel.dimlayerHbm = some 1 → s.session = true

/-- The event is no refused authentication outside of a session. -/
def Answered (s : State) (e : Event) : Prop :=
  ∀ vendor, e = .authenticate vendor → vendor ≠ SYS_OK → s.session = true

/-- An event that switches the dim layer on opens a session, unless it is a
refused authentication; one that ends a session switches it off. -/
theorem Follows.step {s t : State} (hdev : dev.sensor_type = "optical") (hs : Follows s)
    (he : Answered s e) (hstep : step dev s e = some t) : Follows t := by
  cases hstep
  show (e.handle dev s.panel).dimlayerHbm = some 1 → e.session s.session = true
  rw [handle_dimlayerHbm hdev]
  cases e with
  | authenticate vendor =>
      intro _
      by_cases hvendor : vendor = SYS_OK
      · simp [Event.session, hvendor]
      · simp [Event.session, he vendor rfl hvendor]
  | onAuthenticated fingerId =>
      by_cases hid : fingerId = 0
      · have hbefore : s.panel.dimlayerHbm = some 1 → s.session = true := hs
        simpa [Event.dimlayer, Event.session, hid] using hbefore
      · simp [Event.dimlayer, hid]
  | preEnroll vendor => exact fun _ => rfl
  | onFingerDown => exact hs
  | onFingerUp => exact hs
  | forward => exact hs
  | postEnroll vendor => intro h; cases h
  | cancel vendor => intro h; cases h
  | onError => intro h; cases h

/-- A refused authentication outside of a session leaves the dim layer on. -/
theorem not_follows_of_refused {s t : State} (hdev : dev.sensor_type = "optical")
    (he : ¬ Answered s e) (hstep : step dev s e = some t) : ¬ Follows t := by
  cases hstep
  simp only [Answered, not_forall] at he
  obtain ⟨vendor, rfl, hvendor, hsession⟩ := he
  intro hfollows
  have hopened : Event.session s.session (.authenticate vendor) = true := by
    apply hfollows
    show (Event.handle dev s.panel (.authenticate vendor)).dimlayerHbm = some 1
    rw [handle_dimlayerHbm hdev]
    rfl
  simp [Event.session, hsession, hvendor] at hopened

/-- **When the dim layer follows the session.** For every run of client
calls and vendor callbacks on an optical device, in any order and with any
answers: the dim layer is on only in a session, in every state of the run,
if and only if no authentication is refused outside of a session. -/
theorem dimlayer_follows_iff (dev : Device) (hdev : dev.sensor_type = "optical")
    (h : List (State × Event)) (q : State) (hp : Path (step dev) initial h q) :
    ((∀ x ∈ h, Follows x.1) ∧ Follows q) ↔ ∀ x ∈ h, Answered x.1 x.2 := by
  apply hp.always_iff Follows Follows Answered
  · exact fun _ _ _ hs he hstep => hs.step hdev he hstep
  · exact fun _ hs => hs
  · exact fun _ _ _ _ he hstep => not_follows_of_refused hdev he hstep
  · intro hon
    cases hon

def opticalDevice : Device := ⟨"optical", ""⟩

/-- An authentication that finds a finger, and a cancelled enrolment. -/
theorem dimlayer_follows_iff_matched :
    ∃ r ∈ follow (step opticalDevice) initial
        [.authenticate 0, .onFingerDown, .onAuthenticated 0, .onAuthenticated 7, .preEnroll 1,
          .cancel 0],
      ((∀ x ∈ r.1, Follows x.1) ∧ Follows r.2) := by
  have hrun : ∃ r ∈ follow (step opticalDevice) initial
      [.authenticate 0, .onFingerDown, .onAuthenticated 0, .onAuthenticated 7, .preEnroll 1,
        .cancel 0], ∀ x ∈ r.1, ∀ vendor, x.2 = .authenticate vendor → vendor = SYS_OK :=
    ⟨_, rfl, by simp [SYS_OK]⟩
  obtain ⟨r, hr, hok⟩ := hrun
  refine ⟨r, hr, (dimlayer_follows_iff opticalDevice rfl r.1 r.2 (path_of_follow hr)).mpr ?_⟩
  intro x hx vendor he hvendor
  exact absurd (hok x hx vendor he) hvendor

/-- **A refused authentication**: the vendor HAL is busy, no session is
open, and the dim layer stays on. -/
theorem refused_leaves_dimlayer :
    ∃ r ∈ follow (step opticalDevice) initial [.authenticate (-16)],
      r.2.panel.dimlayerHbm = some 1 ∧ r.2.session = false ∧ ¬ Follows r.2 := by
  refine ⟨_, rfl, rfl, rfl, ?_⟩
  intro hfollows
  cases hfollows rfl

end OplusHardware.Fingerprint
