import OplusHardware.Esim.Runs

/-!
# Esim — the switch in the settings

`EsimSettingsFragment` shows a switch over an `EsimController`. The switch
is set when the screen opens and moved when a request has been made; what
the listeners of the secure element service do later does not move it. A
request for the embedded SIM has to be confirmed in a dialog, and dialogs
may pile up.
-/

namespace OplusHardware.Esim

open OplusHardware.Base

/-! ## What the listeners will leave behind -/

namespace EsimController

variable {s t : EsimController} {a : Action} {P : Int → Prop} {start : SeStart}

theorem currentGpioState_setUimPower (s : EsimController) (v : Int) :
    (s.setUimPower v).currentGpioState = s.currentGpioState := by
  unfold currentGpioState setUimPower
  cases s.oplusEsimService <;> rfl

/-- The direct path. -/
theorem currentGpioState_direct (hi : s.Reached) :
    (((s.setUimPower 0).setEsimGpio (inverse s.currentGpioState)).setUimPower 1).currentGpioState =
      inverse s.currentGpioState := by
  obtain ⟨m, hm⟩ := hi.modem
  exact currentGpioState_setEsimGpio ⟨m.setUimPower 0, by simp [setUimPower, hm]⟩ _

/-- Every waiting listener writes a value in `P`, and where none waits the
gpio is in `P`. -/
def WillBe (P : Int → Prop) (s : EsimController) : Prop :=
  (∀ l ∈ s.listeners, P l) ∧ (s.listeners = [] → P s.currentGpioState)

theorem WillBe.step (hw : s.WillBe P) (hi : s.Reached) (hok : getsThrough a = true)
    (hs : EsimController.step s a = some t) : t.WillBe P := by
  cases step_cases hs with
  | same h => cases hok
  | direct h hc => cases hok
  | lost h hc hs => cases hok
  | listen h hc => cases hok
  | @switched i c state hl hc =>
      constructor
      · exact fun l hl' => hw.1 l (List.mem_of_mem_eraseIdx hl')
      · intro _
        rw [currentGpioState_setEsimGpio
          (s := { s with listeners := s.listeners.eraseIdx i }) hi.modem state]
        exact hw.1 state (List.mem_of_getElem? hl)
  | failed hl hc => simp [getsThrough, hc] at hok

/-- **What every order of the call-backs ends in.** -/
theorem willBe_iff (hi : s.Reached) :
    (∀ post t, Path EsimController.step s post t → (∀ y ∈ post, getsThrough y.2 = true) →
      t.listeners = [] → P t.currentGpioState) ↔ s.WillBe P := by
  constructor
  · intro hall
    refine ⟨fun l hl => ?_, fun hempty => hall [] s .nil (by simp) hempty⟩
    obtain ⟨post, t, hp, hpost, hempty, hgpio⟩ := endsWith_of_mem hi hl
    rw [← hgpio]
    exact hall post t hp hpost hempty
  · intro hw post t hp hpost hempty
    have hend : t.WillBe P ∧ t.Reached := by
      refine hp.inv (fun u => u.WillBe P ∧ u.Reached) (fun _ b => getsThrough b = true)
        ?_ ⟨hw, hi⟩ hpost
      rintro u b w ⟨hwu, hu⟩ hb hs
      exact ⟨hwu.step hu hb hs, hu.step hs⟩
    exact hend.1.2 hempty

/-- A listener that does not get through. -/
theorem willBe_failed {i : Nat} {state : Int} (hw : s.WillBe P)
    (hl : s.listeners[i]? = some state) :
    WillBe P { s with listeners := s.listeners.eraseIdx i } ↔
      2 ≤ s.listeners.length ∨ P s.currentGpioState := by
  obtain ⟨hi, -⟩ := List.getElem?_eq_some_iff.mp hl
  have hlen : (s.listeners.eraseIdx i).length = s.listeners.length - 1 :=
    List.length_eraseIdx_of_lt hi
  constructor
  · rintro ⟨-, hlast⟩
    by_cases hmore : 2 ≤ s.listeners.length
    · exact .inl hmore
    · have hnone : s.listeners.eraseIdx i = [] := List.length_eq_zero_iff.mp (by omega)
      exact .inr (hlast hnone)
  · intro hor
    refine ⟨fun l hl' => hw.1 l (List.mem_of_mem_eraseIdx hl'), fun hempty => ?_⟩
    rcases hor with hmore | hgpio
    · have hzero : (s.listeners.eraseIdx i).length = 0 := List.length_eq_zero_iff.mpr hempty
      omega
    · exact hgpio

/-- A request for the tray, where so far all ends with the embedded SIM. -/
theorem willBe_toggle_zero (hi : s.Reached) (hw : s.WillBe (· = 1)) :
    (s.toggleEsimState 0 start).WillBe (· ≠ 1) ↔
      s.listeners = [] ∧ (s.hasSN220Chipset = false ∨ start = .created) := by
  have hwaits : ∀ u : EsimController, (∀ l ∈ s.listeners, l ∈ u.listeners) →
      u.WillBe (· ≠ 1) → s.listeners = [] := by
    intro u hmem hu
    rw [List.eq_nil_iff_forall_not_mem]
    intro l hl
    exact hu.1 l (hmem l hl) (hw.1 l hl)
  generalize hu : s.toggleEsimState 0 start = u
  have hcase : StepCase s (.toggle 0 start) u := hu ▸ toggle_cases s 0 start
  cases hcase with
  | same h =>
      constructor
      · intro hleft
        have hone := hw.2 (hwaits s (fun l hl => hl) hleft)
        omega
      · rintro ⟨hnone, -⟩
        have hone := hw.2 hnone
        omega
  | direct h hc =>
      have hnone : s.listeners = [] := hi.direct hc
      refine iff_of_true ⟨?_, fun _ => ?_⟩ ⟨hnone, .inl hc⟩
      · intro l hl
        have hl : l ∈ s.listeners := hl
        rw [hnone] at hl
        cases hl
      · rw [currentGpioState_direct hi, hw.2 hnone]
        decide
  | lost h hc hs =>
      apply iff_of_false
      · intro hleft
        have hnone := hwaits (s.setUimPower 0) (fun l hl => hl) hleft
        have hne := hleft.2 hnone
        rw [currentGpioState_setUimPower] at hne
        exact hne (hw.2 hnone)
      · rintro ⟨-, hdirect | hcreated⟩
        · rw [hc] at hdirect
          cases hdirect
        · exact hs hcreated
  | listen h hc =>
      constructor
      · intro hleft
        exact ⟨hwaits _ (fun l hl => List.mem_append_left _ hl) hleft, .inr rfl⟩
      · rintro ⟨hnone, -⟩
        constructor
        · intro l hl
          have hl : l ∈ s.listeners ++ [inverse s.currentGpioState] := hl
          rw [hnone, hw.2 hnone] at hl
          rw [List.mem_singleton.mp hl]
          decide
        · intro hempty
          cases (List.append_eq_nil_iff.mp hempty).2

/-- A request for the embedded SIM. -/
theorem willBe_toggle_one (hi : s.Reached) :
    (s.toggleEsimState 1 start).WillBe (· = 1) ↔
      (∀ l ∈ s.listeners, l = 1) ∧
        (s.currentGpioState = 1 ∨
          s.currentGpioState = 0 ∧ (s.hasSN220Chipset = false ∨ start = .created) ∨
          s.listeners ≠ [] ∧ start ≠ .created) := by
  generalize hu : s.toggleEsimState 1 start = u
  have hcase : StepCase s (.toggle 1 start) u := hu ▸ toggle_cases s 1 start
  have hinverse : inverse s.currentGpioState = 1 ↔ s.currentGpioState = 0 := by
    unfold inverse
    split <;> omega
  cases hcase with
  | same h => exact and_congr_right fun _ => iff_of_true (fun _ => h.symm) (.inl h.symm)
  | direct h hc =>
      have hnone : s.listeners = [] := hi.direct hc
      apply and_congr_right
      intro _
      rw [currentGpioState_direct hi]
      constructor
      · exact fun hgpio => .inr (.inl ⟨hinverse.mp (hgpio hnone), .inl hc⟩)
      · rintro (hone | ⟨hzero, -⟩ | ⟨hwaits, -⟩) -
        · exact absurd hone.symm h
        · exact hinverse.mpr hzero
        · exact absurd hnone hwaits
  | lost h hc hs =>
      apply and_congr_right
      intro _
      rw [currentGpioState_setUimPower]
      constructor
      · exact fun hgpio => .inr (.inr ⟨fun hnone => h (hgpio hnone).symm, hs⟩)
      · rintro (hone | ⟨-, hdirect | hcreated⟩ | ⟨hwaits, -⟩) hnone
        · exact hone
        · rw [hc] at hdirect
          cases hdirect
        · exact absurd hcreated hs
        · exact absurd hnone hwaits
  | listen h hc =>
      constructor
      · rintro ⟨hall, -⟩
        refine ⟨fun l hl => hall l (List.mem_append_left _ hl), .inr (.inl ⟨?_, .inr rfl⟩)⟩
        exact hinverse.mp (hall _ (by simp))
      · rintro ⟨hall, hor⟩
        have hzero : s.currentGpioState = 0 := by
          rcases hor with hone | ⟨hzero, -⟩ | ⟨-, hne⟩
          · exact absurd hone.symm h
          · exact hzero
          · exact absurd rfl hne
        constructor
        · intro l hl
          rcases List.mem_append.mp hl with hl | hl
          · exact hall l hl
          · rw [List.mem_singleton.mp hl]
            exact hinverse.mpr hzero
        · intro hempty
          cases (List.append_eq_nil_iff.mp hempty).2

end EsimController

/-! ## The screen -/

/-- The fragment: its controller, its switch and the dialogs that wait for
an answer. -/
structure EsimSettings where
  controller : EsimController
  isChecked : Bool
  dialogs : Nat
  deriving DecidableEq, Repr

namespace EsimSettings

/-- `onCreatePreferences`. The listeners of an earlier fragment still
wait. -/
def onCreatePreferences (controller : EsimController) : EsimSettings :=
  ⟨controller, controller.currentGpioState = 1, 0⟩

/-- `onPreferenceChange`, and whether the switch is to take the value. -/
def onPreferenceChange (s : EsimSettings) (enable : Bool) (start : SeStart) :
    EsimSettings × Bool :=
  if enable then ({ s with dialogs := s.dialogs + 1 }, false)
  else ({ s with controller := s.controller.toggleEsimState 0 start }, true)

/-- A tap on the switch. -/
def onClick (s : EsimSettings) (start : SeStart) : EsimSettings :=
  let newValue := !s.isChecked
  let (t, taken) := s.onPreferenceChange newValue start
  if taken then { t with isChecked := newValue } else t

/-- The positive button of a dialog. -/
def confirm (s : EsimSettings) (start : SeStart) : EsimSettings where
  controller := s.controller.toggleEsimState 1 start
  isChecked := true
  dialogs := s.dialogs - 1

inductive Action where
  | tap (start : SeStart)
  | confirm (start : SeStart)
  | dismiss
  /-- The service of a waiting listener is connected. -/
  | connected (i : Nat) (c : Connection)
  /-- The screen is left and opened again. -/
  | reopen
  deriving DecidableEq, Repr

def step (s : EsimSettings) : Action → Option EsimSettings
  | .tap start => some (s.onClick start)
  | .confirm start => if 0 < s.dialogs then some (s.confirm start) else none
  | .dismiss => if 0 < s.dialogs then some { s with dialogs := s.dialogs - 1 } else none
  | .connected i c =>
      (s.controller.step (.connected i c)).map fun controller => { s with controller := controller }
  | .reopen => some (onCreatePreferences s.controller)

/-! ## Where the switch is right -/

variable {s t : EsimSettings} {a : Action} {start : SeStart}

/-- The switch and the value `v` of the gpio agree. -/
def Agrees (isChecked : Bool) (v : Int) : Prop := v = 1 ↔ isChecked = true

theorem agrees_true : Agrees true = (· = 1) := by
  funext v
  simp [Agrees]

theorem agrees_false : Agrees false = (· ≠ 1) := by
  funext v
  simp [Agrees]

/-- The switch shows what the gpio will be, whatever the order of the
listeners that wait. -/
def Right (s : EsimSettings) : Prop :=
  ∀ post t, Path EsimController.step s.controller post t →
    (∀ y ∈ post, EsimController.getsThrough y.2 = true) → t.listeners = [] →
    Agrees s.isChecked t.currentGpioState

/-- The step leaves the switch right, where it was so before: the SIM tray
is asked for while no listener waits, and a listener is made where one is
needed; the embedded SIM is asked for while the listeners that wait are for
it, and the gpio reads `0` if another one is made; a listener gets through,
or another one waits, or nothing was to change; the screen is opened while
no listener is to change what it finds. -/
def Fine (s : EsimSettings) : Action → Prop
  | .tap start =>
      s.isChecked = true →
        s.controller.listeners = [] ∧ (s.controller.hasSN220Chipset = false ∨ start = .created)
  | .confirm start =>
      (∀ l ∈ s.controller.listeners, l = 1) ∧
        (s.controller.currentGpioState = 1 ∨
          s.controller.currentGpioState = 0 ∧
            (s.controller.hasSN220Chipset = false ∨ start = .created) ∨
          s.controller.listeners ≠ [] ∧ start ≠ .created)
  | .dismiss => True
  | .connected _ c =>
      c.succeeds = true ∨ 2 ≤ s.controller.listeners.length ∨
        Agrees s.isChecked s.controller.currentGpioState
  | .reopen =>
      ∀ l ∈ s.controller.listeners, l = 1 ↔ s.controller.currentGpioState = 1

theorem right_iff (hi : s.controller.Reached) :
    s.Right ↔ s.controller.WillBe (Agrees s.isChecked) :=
  EsimController.willBe_iff hi

theorem onClick_off (h : s.isChecked = false) :
    s.onClick start = { s with dialogs := s.dialogs + 1 } := by
  unfold onClick onPreferenceChange
  rw [h]
  rfl

theorem onClick_on (h : s.isChecked = true) :
    s.onClick start =
      { s with controller := s.controller.toggleEsimState 0 start, isChecked := false } := by
  unfold onClick onPreferenceChange
  rw [h]
  rfl

/-- **The ways a step goes.** -/
inductive StepCase (s : EsimSettings) : Action → EsimSettings → Prop where
  | ask (start : SeStart) (hc : s.isChecked = false) :
      StepCase s (.tap start) { s with dialogs := s.dialogs + 1 }
  | switchOff (start : SeStart) (hc : s.isChecked = true) :
      StepCase s (.tap start)
        { s with controller := s.controller.toggleEsimState 0 start, isChecked := false }
  | confirm (start : SeStart) : StepCase s (.confirm start) (s.confirm start)
  | dismiss : StepCase s .dismiss { s with dialogs := s.dialogs - 1 }
  | connected {i : Nat} {c : Connection} {controller : EsimController}
      (hconn : s.controller.step (.connected i c) = some controller) :
      StepCase s (.connected i c) { s with controller := controller }
  | reopen : StepCase s .reopen (onCreatePreferences s.controller)

theorem step_cases (hs : step s a = some t) : StepCase s a t := by
  cases a with
  | tap start =>
      cases hs
      cases hc : s.isChecked with
      | false =>
          rw [onClick_off hc]
          exact .ask start hc
      | true =>
          rw [onClick_on hc]
          exact .switchOff start hc
  | confirm start =>
      simp only [step, Option.ite_none_right_eq_some] at hs
      obtain ⟨-, hs⟩ := hs
      cases hs
      exact .confirm start
  | dismiss =>
      simp only [step, Option.ite_none_right_eq_some] at hs
      obtain ⟨-, hs⟩ := hs
      cases hs
      exact .dismiss
  | connected i c =>
      simp only [step, Option.map_eq_some_iff] at hs
      obtain ⟨controller, hs, rfl⟩ := hs
      exact .connected hs
  | reopen =>
      cases hs
      exact .reopen

theorem reached_step (hi : s.controller.Reached) (hs : step s a = some t) :
    t.controller.Reached := by
  cases step_cases hs with
  | ask start hc => exact hi
  | switchOff start hc => exact hi.step (a := .toggle 0 start) rfl
  | confirm start => exact hi.step (a := .toggle 1 start) rfl
  | dismiss => exact hi
  | connected hconn => exact hi.step hconn
  | reopen => exact hi

/-- **Exactly the fine steps leave the switch right.** -/
theorem right_step_iff (hi : s.controller.Reached) (hr : s.Right) (hs : step s a = some t) :
    t.Right ↔ s.Fine a := by
  have hw := (right_iff hi).mp hr
  rw [right_iff (reached_step hi hs)]
  cases step_cases hs with
  | ask start hc => exact iff_of_true hw fun hchecked => by simp [hc] at hchecked
  | switchOff start hc =>
      rw [hc, agrees_true] at hw
      show (s.controller.toggleEsimState 0 start).WillBe (Agrees false) ↔ _
      rw [agrees_false, EsimController.willBe_toggle_zero hi hw]
      exact ⟨fun hnone _ => hnone, fun hfine => hfine hc⟩
  | confirm start =>
      show (s.controller.toggleEsimState 1 start).WillBe (Agrees true) ↔ _
      rw [agrees_true, EsimController.willBe_toggle_one hi]
      rfl
  | dismiss => exact iff_of_true hw trivial
  | @connected i c controller hconn =>
      cases EsimController.step_cases hconn with
      | switched hl hc =>
          have hthrough : EsimController.getsThrough (.connected i c) = true := hc
          exact iff_of_true (hw.step hi hthrough hconn) (.inl hc)
      | failed hl hc =>
          show EsimController.WillBe _ _ ↔ c.succeeds = true ∨ _
          rw [EsimController.willBe_failed hw hl, hc]
          simp
  | reopen =>
      show s.controller.WillBe (Agrees (decide (s.controller.currentGpioState = 1))) ↔ _
      have hsame : Agrees (decide (s.controller.currentGpioState = 1))
          s.controller.currentGpioState := by
        simp [Agrees]
      constructor
      · intro hleft l hl
        simpa [Agrees] using hleft.1 l hl
      · intro hfine
        refine ⟨fun l hl => ?_, fun _ => hsame⟩
        simpa [Agrees] using hfine l hl

/-! ## Whole runs -/

/-- A device without the chipset, with a gpio that reads `0` or `1`. -/
structure Direct (s : EsimSettings) : Prop where
  reached : s.controller.Reached
  chipset : s.controller.hasSN220Chipset = false
  gpio : s.controller.currentGpioState = 0 ∨ s.controller.currentGpioState = 1

theorem Direct.listeners (hi : s.Direct) : s.controller.listeners = [] :=
  hi.reached.direct hi.chipset

/-- A toggle on the direct path. -/
theorem Direct.toggle (hi : s.Direct) (state : Int) (start : SeStart) :
    (s.controller.toggleEsimState state start).hasSN220Chipset = false ∧
      ((s.controller.toggleEsimState state start).currentGpioState = 0 ∨
        (s.controller.toggleEsimState state start).currentGpioState = 1) := by
  generalize hu : s.controller.toggleEsimState state start = u
  have hcase : EsimController.StepCase s.controller (.toggle state start) u :=
    hu ▸ EsimController.toggle_cases s.controller state start
  cases hcase with
  | same h => exact ⟨hi.chipset, hi.gpio⟩
  | direct h hc =>
      refine ⟨hc, ?_⟩
      rw [EsimController.currentGpioState_direct hi.reached, EsimController.inverse]
      split
      · exact .inr rfl
      · exact .inl rfl
  | lost h hc hs => exact absurd (hi.chipset.symm.trans hc) (by decide)
  | listen h hc => exact absurd (hi.chipset.symm.trans hc) (by decide)

theorem Direct.step (hi : s.Direct) (hs : EsimSettings.step s a = some t) : t.Direct := by
  have hreached := reached_step hi.reached hs
  cases step_cases hs with
  | ask start hc => exact ⟨hreached, hi.chipset, hi.gpio⟩
  | switchOff start hc =>
      obtain ⟨hchipset, hgpio⟩ := hi.toggle 0 start
      exact ⟨hreached, hchipset, hgpio⟩
  | confirm start =>
      obtain ⟨hchipset, hgpio⟩ := hi.toggle 1 start
      exact ⟨hreached, hchipset, hgpio⟩
  | dismiss => exact ⟨hreached, hi.chipset, hi.gpio⟩
  | connected hconn =>
      simp [EsimController.step, hi.listeners] at hconn
  | reopen => exact ⟨hreached, hi.chipset, hi.gpio⟩

theorem Direct.fine (hi : s.Direct) (hs : EsimSettings.step s a = some t) : s.Fine a := by
  have hnone := hi.listeners
  cases step_cases hs with
  | ask start hc => exact fun hchecked => ⟨hnone, .inl hi.chipset⟩
  | switchOff start hc => exact fun _ => ⟨hnone, .inl hi.chipset⟩
  | confirm start =>
      constructor
      · simp [hnone]
      · rcases hi.gpio with hzero | hone
        · exact .inr (.inl ⟨hzero, .inl hi.chipset⟩)
        · exact .inl hone
  | dismiss => trivial
  | connected hconn =>
      simp [EsimController.step, hnone] at hconn
  | reopen =>
      intro l hl
      rw [hnone] at hl
      cases hl

/-- The screen is opened for the first time. -/
theorem right_open (hasSN220Chipset : Bool) (gpio : Int) :
    (onCreatePreferences (.construct hasSN220Chipset gpio)).Right := by
  rw [right_iff (EsimController.reached_construct hasSN220Chipset gpio)]
  constructor
  · intro l hl
    cases hl
  · simp [onCreatePreferences, Agrees]

/-- **When the switch is right.** In every run of the screen, whatever the
order of taps, dialogs and call-backs and whatever fails: the switch shows
throughout what the gpio will be once the listeners have run, in any order,
exactly when every step is a fine one. Without the SN220 chipset, and with a
gpio that reads `0` or `1`, it always does. -/
theorem switch_right_iff (hasSN220Chipset : Bool) (gpio : Int)
    (h : List (EsimSettings × Action)) (t : EsimSettings)
    (hp : Path step (onCreatePreferences (.construct hasSN220Chipset gpio)) h t) :
    (((∀ x ∈ h, x.1.Right) ∧ t.Right) ↔ ∀ x ∈ h, x.1.Fine x.2) ∧
      (hasSN220Chipset = false → gpio = 0 ∨ gpio = 1 → t.Right) := by
  have hstart := EsimController.reached_construct hasSN220Chipset gpio
  have hopen := right_open hasSN220Chipset gpio
  constructor
  · have hreached : ∀ x ∈ h, x.1.controller.Reached :=
      hp.inv_along (fun s => s.controller.Reached) (fun _ _ => True)
        (fun _ _ _ hi _ hs => reached_step hi hs) hstart fun _ _ => trivial
    have hlast : t.controller.Reached :=
      hp.inv (fun s => s.controller.Reached) (fun _ _ => True)
        (fun _ _ _ hi _ hs => reached_step hi hs) hstart fun _ _ => trivial
    have halways := hp.always_iff (fun s => s.controller.Reached ∧ s.Right)
      (fun s => s.controller.Reached ∧ s.Right) Fine
      (fun _ _ _ hi hfine hs => ⟨reached_step hi.1 hs, (right_step_iff hi.1 hi.2 hs).mpr hfine⟩)
      (fun _ hi => hi)
      (fun _ _ _ hi hfine hs hu => hfine ((right_step_iff hi.1 hi.2 hs).mp hu.2))
      ⟨hstart, hopen⟩
    rw [← halways]
    constructor
    · exact fun hall => ⟨fun x hx => ⟨hreached x hx, hall.1 x hx⟩, hlast, hall.2⟩
    · exact fun hall => ⟨fun x hx => (hall.1 x hx).2, hall.2.2⟩
  · intro hchipset hgpio
    have hdirect : t.Direct ∧ t.Right := by
      apply hp.inv (fun s => s.Direct ∧ s.Right) (fun _ _ => True)
      · intro s a u hi _ hs
        exact ⟨hi.1.step hs, (right_step_iff hi.1.reached hi.2 hs).mpr (hi.1.fine hs)⟩
      · exact ⟨⟨hstart, hchipset, hgpio⟩, hopen⟩
      · exact fun _ _ => trivial
    exact hdirect.2

/-- The embedded SIM is asked for and confirmed, then the tray is asked
for. With the SN220 chipset a listener waits by then. -/
def changedMind : List Action := [.tap .created, .confirm .created, .tap .created]

theorem switch_right_iff_changed_mind :
    (∃ r ∈ follow step (onCreatePreferences (.construct false 0)) changedMind, r.2.Right) ∧
    ∃ r ∈ follow step (onCreatePreferences (.construct true 0)) changedMind,
      r.2.isChecked = false ∧ r.2.controller.listeners = [1] ∧
        ¬ ((∀ x ∈ r.1, x.1.Right) ∧ r.2.Right) := by
  constructor
  · obtain ⟨r, hr⟩ : ∃ r, follow step (onCreatePreferences (.construct false 0)) changedMind =
      some r := ⟨_, rfl⟩
    exact ⟨r, hr, (switch_right_iff false 0 r.1 r.2 (path_of_follow hr)).2 rfl (.inl rfl)⟩
  · have hrun : ∃ r ∈ follow step (onCreatePreferences (.construct true 0)) changedMind,
        r.2.isChecked = false ∧ r.2.controller.listeners = [1] ∧
          ∃ x ∈ r.1, x.2 = .tap .created ∧ x.1.isChecked = true ∧
            x.1.controller.listeners = [1] := by
      decide +kernel
    obtain ⟨r, hr, hchecked, hlisteners, x, hx, htap, hon, hwaits⟩ := hrun
    refine ⟨r, hr, hchecked, hlisteners, ?_⟩
    rw [(switch_right_iff true 0 r.1 r.2 (path_of_follow hr)).1]
    intro hfine
    have hlate := hfine x hx
    rw [htap] at hlate
    have hnone := (hlate hon).1
    rw [hwaits] at hnone
    cases hnone

end EsimSettings

end OplusHardware.Esim
