import OplusHardware.Base.Path

/-!
# Esim — EsimController

Switching between the SIM tray and the embedded SIM. On devices with the
SN220 chipset the switch is completed by a listener that the secure
element service calls back when it is connected. Calls and call-backs are
taken one at a time, in any order.
-/

namespace OplusHardware.Esim

/-- What `IOplusEsim` keeps, where its calls succeed. -/
structure Modem where
  gpio : Int
  uimPower : Int
  deriving DecidableEq, Repr

namespace Modem

def setEsimGpio (m : Modem) (operation : Int) : Modem := { m with gpio := operation }

def setUimPower (m : Modem) (operation : Int) : Modem := { m with uimPower := operation }

@[simp] theorem setEsimGpio_gpio (m : Modem) (v : Int) : (m.setEsimGpio v).gpio = v := rfl

@[simp] theorem setUimPower_gpio (m : Modem) (v : Int) :
    (m.setUimPower v).gpio = m.gpio := rfl

@[simp] theorem setUimPower_uimPower (m : Modem) (v : Int) :
    (m.setUimPower v).uimPower = v := rfl

end Modem

/-- How the construction of an `SEService` ends. -/
inductive SeStart where
  /-- The constructor throws. -/
  | throws
  /-- `onConnected` runs before `seService` is assigned, and returns. -/
  | connectedEarly
  /-- `onConnected` is still to come. -/
  | created
  deriving DecidableEq, Repr

/-- What `onConnected` finds on a connected service. -/
structure Connection where
  /-- Whether there is a reader `eSE1`; `none` where `readers` throws. -/
  readers : Option Bool
  openSession : Bool
  openLogicalChannel : Bool
  deriving DecidableEq, Repr

/-- Nothing throws before the modem is switched. Without a reader there is
no session and no channel to open. -/
def Connection.succeeds (c : Connection) : Bool :=
  match c.readers with
  | none => false
  | some false => true
  | some true => c.openSession && c.openLogicalChannel

/-- The controller: its service, where it was found, and the states its
waiting listeners are going to set. -/
structure EsimController where
  hasSN220Chipset : Bool
  oplusEsimService : Option Modem
  listeners : List Int
  deriving DecidableEq, Repr

namespace EsimController

variable {s t : EsimController}

/-- A controller whose service was found. -/
def construct (hasSN220Chipset : Bool) (gpio : Int) : EsimController :=
  ⟨hasSN220Chipset, some ⟨gpio, 1⟩, []⟩

def currentGpioState (s : EsimController) : Int :=
  match s.oplusEsimService with
  | some m => m.gpio
  | none => 0

def setEsimGpio (s : EsimController) (operation : Int) : EsimController :=
  { s with oplusEsimService := s.oplusEsimService.map (·.setEsimGpio operation) }

def setUimPower (s : EsimController) (operation : Int) : EsimController :=
  { s with oplusEsimService := s.oplusEsimService.map (·.setUimPower operation) }

/-- `specialSetEsimGpio`. -/
def specialSetEsimGpio (s : EsimController) (state : Int) (start : SeStart) :
    EsimController :=
  match start with
  | .throws => s
  | .connectedEarly => s
  | .created => { s with listeners := s.listeners ++ [state] }

/-- The value `toggleEsimState` switches to. -/
def inverse (gpioState : Int) : Int := if gpioState = 0 then 1 else 0

/-- `toggleEsimState`. -/
def toggleEsimState (s : EsimController) (state : Int) (start : SeStart) : EsimController :=
  let gpioState := s.currentGpioState
  if state = gpioState then s
  else if s.hasSN220Chipset then
    (s.setUimPower 0).specialSetEsimGpio (inverse gpioState) start
  else
    -- setUimPower(1) follows at once
    ((s.setUimPower 0).setEsimGpio (inverse gpioState)).setUimPower 1

/-- `onConnected` of a listener for `state`. -/
def onConnected (s : EsimController) (state : Int) (c : Connection) : EsimController :=
  if c.succeeds then (s.setEsimGpio state).setUimPower 1 else s

inductive Action where
  | toggle (state : Int) (start : SeStart)
  /-- The service of a waiting listener is connected. -/
  | connected (i : Nat) (c : Connection)
  deriving DecidableEq, Repr

def step (s : EsimController) : Action → Option EsimController
  | .toggle state start => some (s.toggleEsimState state start)
  | .connected i c =>
      match s.listeners[i]? with
      | some state =>
          some ({ s with listeners := s.listeners.eraseIdx i }.onConnected state c)
      | none => none

/-! ## What a step can do -/

inductive StepCase (s : EsimController) : Action → EsimController → Prop where
  | same {state : Int} {start : SeStart} (h : state = s.currentGpioState) :
      StepCase s (.toggle state start) s
  | direct {state : Int} {start : SeStart} (h : state ≠ s.currentGpioState)
      (hc : s.hasSN220Chipset = false) :
      StepCase s (.toggle state start)
        (((s.setUimPower 0).setEsimGpio (inverse s.currentGpioState)).setUimPower 1)
  | lost {state : Int} {start : SeStart} (h : state ≠ s.currentGpioState)
      (hc : s.hasSN220Chipset = true) (hs : start ≠ .created) :
      StepCase s (.toggle state start) (s.setUimPower 0)
  | listen {state : Int} (h : state ≠ s.currentGpioState)
      (hc : s.hasSN220Chipset = true) :
      StepCase s (.toggle state .created)
        { s.setUimPower 0 with listeners := s.listeners ++ [inverse s.currentGpioState] }
  | switched {i : Nat} {c : Connection} {state : Int} (hi : s.listeners[i]? = some state)
      (hc : c.succeeds = true) :
      StepCase s (.connected i c)
        (({ s with listeners := s.listeners.eraseIdx i }.setEsimGpio state).setUimPower 1)
  | failed {i : Nat} {c : Connection} {state : Int} (hi : s.listeners[i]? = some state)
      (hc : c.succeeds = false) :
      StepCase s (.connected i c) { s with listeners := s.listeners.eraseIdx i }

theorem toggle_cases (s : EsimController) (state : Int) (start : SeStart) :
    StepCase s (.toggle state start) (s.toggleEsimState state start) := by
  unfold toggleEsimState
  by_cases h : state = s.currentGpioState
  · rw [if_pos h]
    exact .same h
  · rw [if_neg h]
    by_cases hc : s.hasSN220Chipset = true
    · rw [if_pos hc]
      cases start with
      | throws => exact .lost h hc nofun
      | connectedEarly => exact .lost h hc nofun
      | created => exact .listen h hc
    · rw [if_neg hc]
      exact .direct h (eq_false_of_ne_true hc)

theorem step_cases {a : Action} (hs : step s a = some t) : StepCase s a t := by
  cases a with
  | toggle state start =>
      cases hs
      exact toggle_cases s state start
  | connected i c =>
      rw [step] at hs
      split at hs
      · rename_i state hi
        cases hs
        unfold onConnected
        cases hc : c.succeeds with
        | true => exact .switched hi hc
        | false => exact .failed hi hc
      · cases hs

end EsimController

end OplusHardware.Esim
