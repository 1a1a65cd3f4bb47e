import OplusHardware.AlertSlider.KeyHandler
import OplusHardware.AlertSlider.Overlay

/-!
# AlertSlider — AlertSliderDialog

The window that the overlay shows. `setState` has two paths: a dialog that
is not shown is set at once, a shown one is moved by an animation whose end
sets it. The animated path cancels what still runs; the path that sets at
once does not, so an animation that outlives the dismissal of the dialog
ends on top of a newer state.

The animation framework is part of the schedule: once started, an
animation may call its update listener any number of times, with any
values, and its end listener once, whether the dialog is shown or not. A
dialog always has its window.
-/

namespace OplusHardware.AlertSlider.Dialog

open OplusHardware.Base

/-! ## Resources -/

def rotation90 : Int := 1
def rotation270 : Int := 3

/-- The drawables of the frame. -/
inductive Background where
  | alertSliderTop
  | alertSliderTopFlip
  | alertSliderTop90
  | alertSliderTop90Flip
  | alertSliderTop270
  | alertSliderTop270Flip
  | alertSliderMiddle
  | alertSliderBottom
  | alertSliderBottomFlip
  | alertSliderBottom90
  | alertSliderBottom90Flip
  | alertSliderBottom270
  | alertSliderBottom270Flip
  deriving DecidableEq, Repr

inductive Icon where
  | icVolumeRingerMute
  | icVolumeRingerVibrate
  | icVolumeRinger
  | icNotificationsAlert
  | icNotificationsSilence
  | icAlarm
  | icInfo
  deriving DecidableEq, Repr

inductive Caption where
  | alertSliderModeSilent
  | alertSliderModeVibration
  | alertSliderModeNormal
  | alertSliderModeDndPriorityOnly
  | alertSliderModeDndTotalSilence
  | alertSliderModeDndAlarmsOnly
  | alertSliderModeNone
  deriving DecidableEq, Repr

def iconFor (ringerMode : Int) : Icon :=
  if ringerMode = ringerModeSilent then .icVolumeRingerMute
  else if ringerMode = ringerModeVibrate then .icVolumeRingerVibrate
  else if ringerMode = ringerModeNormal then .icVolumeRinger
  else if ringerMode = zenPriorityOnly then .icNotificationsAlert
  else if ringerMode = zenTotalSilence then .icNotificationsSilence
  else if ringerMode = zenAlarmsOnly then .icAlarm
  else .icInfo

def captionFor (ringerMode : Int) : Caption :=
  if ringerMode = ringerModeSilent then .alertSliderModeSilent
  else if ringerMode = ringerModeVibrate then .alertSliderModeVibration
  else if ringerMode = ringerModeNormal then .alertSliderModeNormal
  else if ringerMode = zenPriorityOnly then .alertSliderModeDndPriorityOnly
  else if ringerMode = zenTotalSilence then .alertSliderModeDndTotalSilence
  else if ringerMode = zenAlarmsOnly then .alertSliderModeDndAlarmsOnly
  else .alertSliderModeNone

/-- What the constructor reads of the display and the resources. -/
structure Layout where
  rotation : Int
  flip : Bool
  length : Int32
  xPos : Int32
  yPos : Int32

namespace Layout

variable (d : Layout)

def isLandscape : Bool := d.rotation = rotation90 || d.rotation = rotation270

def delta (position : Int) : Int32 :=
  d.length * (if position = positionTop then -1 else if position = positionBottom then 1 else 0)

/-- `(endX, endY)`. -/
def target (position : Int) : Int32 × Int32 :=
  if d.isLandscape then (d.xPos + d.delta position, d.yPos)
  else (d.xPos, d.yPos + d.delta position)

/-- The drawable of `position` among those of one rotation. -/
def pick (position : Int) (top topFlip bottom bottomFlip : Background) : Background :=
  if position = positionTop then (if d.flip then topFlip else top)
  else if position = positionBottom then (if d.flip then bottomFlip else bottom)
  else .alertSliderMiddle

def backgroundFor (position : Int) : Background :=
  if d.rotation = rotation90 then
    d.pick position .alertSliderTop90 .alertSliderTop90Flip .alertSliderBottom90
      .alertSliderBottom90Flip
  else if d.rotation = rotation270 then
    d.pick position .alertSliderTop270 .alertSliderTop270Flip .alertSliderBottom270
      .alertSliderBottom270Flip
  else
    d.pick position .alertSliderTop .alertSliderTopFlip .alertSliderBottom
      .alertSliderBottomFlip

end Layout

/-! ## The dialog -/

/-- A `ValueAnimator` that has been started, by its number, and what its
end listener captured. -/
structure Animation where
  id : Nat
  endX : Int32
  endY : Int32
  position : Int
  deriving DecidableEq, Repr

/-- The dialog and its views. The views hold what the layout file gives
them until they are set. -/
structure AlertSliderDialog where
  isShowing : Bool
  isAnimating : Bool
  /-- The number of the object in `animator`. -/
  animator : Nat
  /-- Animators made so far. -/
  created : Nat
  /-- The animations that have been started and not ended. -/
  running : List Animation
  /-- `x` and `y` of the window. -/
  attributes : Int32 × Int32
  background : Option Background
  icon : Option Icon
  caption : Option Caption
  /-- What the last `setState` was given. -/
  lastState : Option (Int × Int)
  deriving DecidableEq, Repr

variable (d : Layout)

def construct : AlertSliderDialog where
  isShowing := false
  isAnimating := false
  animator := 0
  created := 1
  running := []
  attributes := (d.xPos, d.yPos)
  background := none
  icon := none
  caption := none
  lastState := none

namespace AlertSliderDialog

def applyUiMode (s : AlertSliderDialog) (ringerMode : Int) : AlertSliderDialog :=
  { s with icon := some (iconFor ringerMode), caption := some (captionFor ringerMode) }

def applyPositionAndBackground (s : AlertSliderDialog) (endX endY : Int32) (position : Int) :
    AlertSliderDialog :=
  { s with attributes := (endX, endY), background := some (d.backgroundFor position) }

def onAnimationStart (s : AlertSliderDialog) (ringerMode : Int) : AlertSliderDialog :=
  { s with isAnimating := true }.applyUiMode ringerMode

def onAnimationEnd (s : AlertSliderDialog) (animation : Animation) : AlertSliderDialog :=
  { s.applyPositionAndBackground d animation.endX animation.endY animation.position with
    isAnimating := false }

/-- An animation ends: it runs no more, and its listener is called. -/
def finish (s : AlertSliderDialog) (animation : Animation) : AlertSliderDialog :=
  { s with running := s.running.filter (·.id ≠ animation.id) }.onAnimationEnd d animation

/-- `animator.cancel()`: an animation that runs ends at once. -/
def cancel (s : AlertSliderDialog) : AlertSliderDialog :=
  match s.running.find? (·.id = s.animator) with
  | some animation => s.finish d animation
  | none => s

/-- A new animator is made, and started. -/
def start (s : AlertSliderDialog) (endX endY : Int32) (position ringerMode : Int) :
    AlertSliderDialog :=
  { s with
    animator := s.created
    created := s.created + 1
    running := ⟨s.created, endX, endY, position⟩ :: s.running }.onAnimationStart ringerMode

def animatePosition (s : AlertSliderDialog) (endX endY : Int32) (position ringerMode : Int) :
    AlertSliderDialog :=
  let s := if s.isAnimating then s.cancel d else s
  s.start endX endY position ringerMode

def setState (s : AlertSliderDialog) (position ringerMode : Int) : AlertSliderDialog :=
  let (endX, endY) := d.target position
  let s := { s with lastState := some (position, ringerMode) }
  if s.isShowing then s.animatePosition d endX endY position ringerMode
  else (s.applyUiMode ringerMode).applyPositionAndBackground d endX endY position

end AlertSliderDialog

/-! ## Schedules -/

inductive Action where
  | setState (position ringerMode : Int)
  | showDialog
  | dismissDialog
  /-- The update listener of an animation is called. -/
  | onAnimationUpdate (id : Nat) (x y : Int32)
  /-- An animation comes to its end. -/
  | onAnimationEnd (id : Nat)
  deriving DecidableEq, Repr

def Action.isSetState : Action → Bool
  | .setState _ _ => true
  | _ => false

def step (s : AlertSliderDialog) : Action → Option AlertSliderDialog
  | .setState position ringerMode => some (s.setState d position ringerMode)
  | .showDialog => some { s with isShowing := true }
  | .dismissDialog => some { s with isShowing := false }
  | .onAnimationUpdate id x y =>
      (s.running.find? (·.id = id)).map fun _ => { s with attributes := (x, y) }
  | .onAnimationEnd id => (s.running.find? (·.id = id)).map (s.finish d)

/-- When no animation runs, everything is as the last `setState` has it. -/
def LastStateWins (s : AlertSliderDialog) : Prop :=
  ∀ position ringerMode, s.lastState = some (position, ringerMode) → s.running = [] →
    s.attributes = d.target position ∧ s.background = some (d.backgroundFor position) ∧
      s.icon = some (iconFor ringerMode) ∧ s.caption = some (captionFor ringerMode)

/-- However it goes on until the next `setState`, the last state wins. -/
def Settles (s : AlertSliderDialog) : Prop :=
  ∀ h t, Path (step d) s h t → (∀ x ∈ h, x.2.isSetState = false) → LastStateWins d t

/-- The animation ends where `position` has the window, in its colours. -/
def EndsAt (animation : Animation) (position : Int) : Prop :=
  (animation.endX, animation.endY) = d.target position ∧
    d.backgroundFor animation.position = d.backgroundFor position

/-- A `setState` of a dialog that is not shown finds no animation, or one
that ends where it puts the window. -/
def FindsNoOther (s : AlertSliderDialog) : Action → Prop
  | .setState position _ =>
      s.isShowing = false → ∀ animation ∈ s.running, EndsAt d animation position
  | _ => True

instance (animation : Animation) (position : Int) : Decidable (EndsAt d animation position) :=
  inferInstanceAs (Decidable (_ ∧ _))

instance (s : AlertSliderDialog) (a : Action) : Decidable (FindsNoOther d s a) :=
  match a with
  | .setState position _ =>
      inferInstanceAs (Decidable
        (s.isShowing = false → ∀ animation ∈ s.running, EndsAt d animation position))
  | .showDialog => isTrue trivial
  | .dismissDialog => isTrue trivial
  | .onAnimationUpdate .. => isTrue trivial
  | .onAnimationEnd _ => isTrue trivial

variable {d} {s t : AlertSliderDialog}

/-! ## One animation at a time -/

/-- At most one animation runs, that of `animator`, and `isAnimating` tells
whether it does. -/
inductive Shape (s : AlertSliderDialog) : Prop where
  | still (hflag : s.isAnimating = false) (hrunning : s.running = [])
  | moving (animation : Animation) (hflag : s.isAnimating = true)
      (hrunning : s.running = [animation]) (hid : animation.id = s.animator)

/-- The other fields do not matter. -/
theorem Shape.congr (h : Shape s) (hflag : t.isAnimating = s.isAnimating)
    (hrunning : t.running = s.running) (hanimator : t.animator = s.animator) : Shape t := by
  cases h with
  | still hflag' hrunning' => exact .still (hflag.trans hflag') (hrunning.trans hrunning')
  | moving animation hflag' hrunning' hid =>
      exact .moving animation (hflag.trans hflag') (hrunning.trans hrunning')
        (hid.trans hanimator.symm)

theorem Shape.alone {animation : Animation} (h : Shape s) (hmem : animation ∈ s.running) :
    s.running = [animation] := by
  cases h with
  | still _ hrunning =>
      rw [hrunning] at hmem
      cases hmem
  | moving animation' _ hrunning _ =>
      rw [hrunning, List.mem_singleton] at hmem
      rw [hrunning, hmem]

/-- The animation that a listener is called for is the one that runs. -/
theorem Shape.find {id : Nat} {animation : Animation} (h : Shape s)
    (hfind : s.running.find? (·.id = id) = some animation) : s.running = [animation] :=
  h.alone (List.mem_of_find?_eq_some hfind)

theorem find_alone {animation : Animation} (h : s.running = [animation]) :
    s.running.find? (·.id = animation.id) = some animation := by
  rw [h, List.find?_cons_of_pos (by simp)]

theorem finish_running {animation : Animation} (h : s.running = [animation]) :
    (s.finish d animation).running = [] := by
  show s.running.filter (·.id ≠ animation.id) = []
  rw [h, List.filter_cons_of_neg (by simp)]
  rfl

theorem step_end {animation : Animation} (h : s.running = [animation]) :
    step d s (.onAnimationEnd animation.id) = some (s.finish d animation) := by
  rw [step, find_alone h]
  rfl

/-- What `animatePosition` starts from: nothing runs any more. -/
theorem cancel_running (h : Shape s) :
    (if s.isAnimating then s.cancel d else s).running = [] := by
  cases h with
  | still hflag hrunning => rw [hflag, if_neg (by simp), hrunning]
  | moving animation hflag hrunning hid =>
      rw [if_pos hflag, AlertSliderDialog.cancel, ← hid, find_alone hrunning]
      exact finish_running hrunning

/-! ## The two paths of `setState` -/

/-- The path that sets at once. What runs goes on running. -/
theorem setState_hidden {position ringerMode : Int} (h : s.isShowing = false) :
    s.setState d position ringerMode =
      { s with
        lastState := some (position, ringerMode)
        attributes := d.target position
        background := some (d.backgroundFor position)
        icon := some (iconFor ringerMode)
        caption := some (captionFor ringerMode) } := by
  simp only [AlertSliderDialog.setState, h]
  rfl

theorem cancel_lastState : (if s.isAnimating then s.cancel d else s).lastState = s.lastState := by
  split
  · rw [AlertSliderDialog.cancel]
    split
    · rfl
    · rfl
  · rfl

/-- Where nothing runs, the new animation runs alone. -/
theorem start_alone (endX endY : Int32) (position ringerMode : Int) (h : s.running = []) :
    let t := s.start endX endY position ringerMode
    t.isAnimating = true ∧ t.running = [⟨t.animator, endX, endY, position⟩] ∧
      t.icon = some (iconFor ringerMode) ∧ t.caption = some (captionFor ringerMode) ∧
      t.lastState = s.lastState := by
  refine ⟨rfl, ?_, rfl, rfl, rfl⟩
  show ⟨s.created, endX, endY, position⟩ :: s.running = _
  rw [h]
  rfl

/-- The animated path: one animation runs, for the new state. -/
theorem setState_shown (position ringerMode : Int) (h : Shape s) (hs : s.isShowing = true) :
    let t := s.setState d position ringerMode
    t.isAnimating = true ∧
      t.running = [⟨t.animator, (d.target position).1, (d.target position).2, position⟩] ∧
      t.icon = some (iconFor ringerMode) ∧ t.caption = some (captionFor ringerMode) ∧
      t.lastState = some (position, ringerMode) := by
  have hshape : Shape { s with lastState := some (position, ringerMode) } := h.congr rfl rfl rfl
  have hset : s.setState d position ringerMode =
      { s with lastState := some (position, ringerMode) }.animatePosition d
        (d.target position).1 (d.target position).2 position ringerMode := by
    simp only [AlertSliderDialog.setState, hs, if_true]
  have halone := start_alone (d.target position).1 (d.target position).2 position ringerMode
    (cancel_running (d := d) hshape)
  rw [cancel_lastState] at halone
  rw [hset]
  exact halone

theorem Shape.setState {position ringerMode : Int} (h : Shape s) :
    Shape (s.setState d position ringerMode) := by
  cases hs : s.isShowing with
  | true =>
      obtain ⟨hflag, hrunning, -⟩ := setState_shown (d := d) position ringerMode h hs
      exact .moving _ hflag hrunning rfl
  | false =>
      rw [setState_hidden hs]
      exact h.congr rfl rfl rfl

/-! ## Steps -/

/-- Every step, with the animation whose listener is called: it is the one
that runs. -/
inductive StepCase (d : Layout) (s : AlertSliderDialog) : Action → AlertSliderDialog → Prop where
  | setState (position ringerMode : Int) :
      StepCase d s (.setState position ringerMode) (s.setState d position ringerMode)
  | showDialog : StepCase d s .showDialog { s with isShowing := true }
  | dismissDialog : StepCase d s .dismissDialog { s with isShowing := false }
  | update {id : Nat} (x y : Int32) {animation : Animation}
      (hrunning : s.running = [animation]) :
      StepCase d s (.onAnimationUpdate id x y) { s with attributes := (x, y) }
  | ends {id : Nat} {animation : Animation} (hrunning : s.running = [animation]) :
      StepCase d s (.onAnimationEnd id) (s.finish d animation)

theorem step_cases {a : Action} (h : Shape s) (hs : step d s a = some t) :
    StepCase d s a t := by
  cases a with
  | setState position ringerMode =>
      cases hs
      exact .setState position ringerMode
  | showDialog =>
      cases hs
      exact .showDialog
  | dismissDialog =>
      cases hs
      exact .dismissDialog
  | onAnimationUpdate id x y =>
      simp only [step, Option.map_eq_some_iff] at hs
      obtain ⟨animation, hfind, rfl⟩ := hs
      exact .update x y (h.find hfind)
  | onAnimationEnd id =>
      simp only [step, Option.map_eq_some_iff] at hs
      obtain ⟨animation, hfind, rfl⟩ := hs
      exact .ends (h.find hfind)

theorem Shape.step {a : Action} (h : Shape s) (hs : step d s a = some t) : Shape t := by
  cases step_cases h hs with
  | setState position ringerMode => exact h.setState
  | showDialog => exact h.congr rfl rfl rfl
  | dismissDialog => exact h.congr rfl rfl rfl
  | update x y hrunning => exact h.congr rfl rfl rfl
  | ends hrunning => exact .still rfl (finish_running hrunning)

/-! ## The view follows the last state -/

/-- **The invariant**: the texts are those of the last state, the window is
where it belongs once nothing runs, and what runs brings it there. -/
structure Follows (d : Layout) (s : AlertSliderDialog) : Prop where
  shape : Shape s
  view : ∀ position ringerMode, s.lastState = some (position, ringerMode) →
    s.icon = some (iconFor ringerMode) ∧ s.caption = some (captionFor ringerMode)
  placed : ∀ position ringerMode, s.lastState = some (position, ringerMode) →
    s.running = [] →
      s.attributes = d.target position ∧ s.background = some (d.backgroundFor position)
  aims : ∀ position ringerMode, s.lastState = some (position, ringerMode) →
    ∀ animation ∈ s.running, EndsAt d animation position

theorem Follows.lastStateWins (h : Follows d s) : LastStateWins d s := by
  intro position ringerMode hlast hrunning
  obtain ⟨hx, hb⟩ := h.placed position ringerMode hlast hrunning
  exact ⟨hx, hb, h.view position ringerMode hlast⟩

theorem follows_construct (d : Layout) : Follows d (construct d) where
  shape := .still rfl rfl
  view := by rintro _ _ ⟨⟩
  placed := by rintro _ _ ⟨⟩
  aims := by rintro _ _ ⟨⟩

theorem Follows.setState {position ringerMode : Int} (h : Follows d s)
    (hok : FindsNoOther d s (.setState position ringerMode)) :
    Follows d (s.setState d position ringerMode) := by
  cases hs : s.isShowing with
  | true =>
      obtain ⟨hflag, hrunning, hicon, hcaption, hlast⟩ :=
        setState_shown (d := d) position ringerMode h.shape hs
      refine ⟨h.shape.setState, ?_, ?_, ?_⟩
      · intro position' ringerMode' hlast'
        rw [hlast] at hlast'
        cases hlast'
        exact ⟨hicon, hcaption⟩
      · intro position' ringerMode' _ hnil
        rw [hrunning] at hnil
        cases hnil
      · intro position' ringerMode' hlast'
        rw [hlast] at hlast'
        cases hlast'
        rw [hrunning]
        intro animation hmem
        cases List.mem_singleton.mp hmem
        exact ⟨rfl, rfl⟩
  | false =>
      refine ⟨h.shape.setState, ?_, ?_, ?_⟩
      all_goals
        rw [setState_hidden hs]
        rintro _ _ ⟨⟩
      · exact ⟨rfl, rfl⟩
      · exact fun _ => ⟨rfl, rfl⟩
      · exact hok hs

/-- The end of an animation brings the window to where it aims. -/
theorem Follows.finish {animation : Animation} (h : Follows d s)
    (hrunning : s.running = [animation]) : Follows d (s.finish d animation) where
  shape := .still rfl (finish_running hrunning)
  view := h.view
  placed := by
    intro position ringerMode hlast _
    obtain ⟨hx, hb⟩ := h.aims position ringerMode hlast animation
      (by rw [hrunning]; exact List.mem_cons_self)
    exact ⟨hx, congrArg some hb⟩
  aims := by
    intro position ringerMode _
    rw [finish_running hrunning]
    rintro _ ⟨⟩

/-- **One step**: only a `setState` that finds another animation breaks the
invariant. -/
theorem Follows.step {a : Action} (h : Follows d s) (hok : FindsNoOther d s a)
    (hs : step d s a = some t) : Follows d t := by
  have hshape := h.shape.step hs
  cases step_cases h.shape hs with
  | setState position ringerMode => exact h.setState hok
  | showDialog => exact ⟨hshape, h.view, h.placed, h.aims⟩
  | dismissDialog => exact ⟨hshape, h.view, h.placed, h.aims⟩
  | update x y hrunning =>
      refine ⟨hshape, h.view, ?_, h.aims⟩
      -- the window is wherever the animation has it, and the animation still runs
      intro position ringerMode _ hnil
      rw [show s.running = [] from hnil] at hrunning
      cases hrunning
  | ends hrunning => exact h.finish hrunning

theorem Settles.lastStateWins (h : Settles d s) : LastStateWins d s :=
  h [] s .nil (by rintro _ ⟨⟩)

/-- Without a further `setState` nothing breaks it. -/
theorem Follows.settles (h : Follows d s) : Settles d s := by
  intro steps t hp hnone
  have hfollows : Follows d t := by
    apply hp.inv (Follows d) (fun _ a => a.isSetState = false)
    · intro t a u ht ha hs
      apply ht.step _ hs
      cases a with
      | setState => cases ha
      | showDialog => trivial
      | dismissDialog => trivial
      | onAnimationUpdate => trivial
      | onAnimationEnd => trivial
    · exact h
    · exact hnone
  exact hfollows.lastStateWins

/-! ## When the last state wins -/

/-- A `setState` that sets at once over another animation does not last:
the end of that animation undoes it. -/
theorem not_settles {a : Action} (h : Shape s) (hother : ¬ FindsNoOther d s a)
    (hs : step d s a = some t) : ¬ Settles d t := by
  intro hsettles
  cases a with
  | setState position ringerMode =>
      simp only [FindsNoOther, Classical.not_imp, not_forall] at hother
      obtain ⟨hshowing, animation, hmem, hends⟩ := hother
      cases hs
      rw [setState_hidden hshowing] at hsettles
      -- the animation still runs, and its end puts the window where it aims
      have hrunning : s.running = [animation] := h.alone hmem
      have hwins := hsettles _ _ (.single (step_end hrunning))
        (List.forall_mem_cons.mpr ⟨rfl, by rintro _ ⟨⟩⟩)
      obtain ⟨hx, hb, -⟩ := hwins position ringerMode rfl (finish_running hrunning)
      exact hends ⟨hx, Option.some.inj hb⟩
  | showDialog => exact hother trivial
  | dismissDialog => exact hother trivial
  | onAnimationUpdate => exact hother trivial
  | onAnimationEnd => exact hother trivial

/-- **When the last state wins.** For every layout and every schedule from
the construction of the dialog: if every `setState` of a dialog that is not
shown finds no animation running, or one that ends where it puts the window,
the last state wins in every state. And that condition is exact: it holds of
all steps if and only if no state of the schedule can go on, with listeners,
shows and dismissals only, to one in which the last state has not won. -/
theorem lastStateWins_always_iff {h : List (AlertSliderDialog × Action)}
    (hp : Path (step d) (construct d) h s) :
    ((∀ x ∈ h, FindsNoOther d x.1 x.2) →
      (∀ x ∈ h, LastStateWins d x.1) ∧ LastStateWins d s) ∧
    ((∀ x ∈ h, FindsNoOther d x.1 x.2) ↔ (∀ x ∈ h, Settles d x.1) ∧ Settles d s) := by
  have hiff : (∀ x ∈ h, FindsNoOther d x.1 x.2) ↔
      (∀ x ∈ h, Settles d x.1) ∧ Settles d s := by
    have hshape := hp.inv_along Shape (fun _ _ => True) (fun _ _ _ ht _ hs => ht.step hs)
      (follows_construct d).shape (fun _ _ => trivial)
    have hshape' := hp.inv Shape (fun _ _ => True) (fun _ _ _ ht _ hs => ht.step hs)
      (follows_construct d).shape (fun _ _ => trivial)
    have hexact := hp.always_iff (fun s => Shape s ∧ Settles d s) (Follows d) (FindsNoOther d)
      (fun _ _ _ ht hok hs => ht.step hok hs) (fun _ ht => ⟨ht.shape, ht.settles⟩)
      (fun _ _ _ ht hok hs hu => not_settles ht.1 hok hs hu.2) (follows_construct d)
    rw [← hexact]
    constructor
    · rintro ⟨hall, hs⟩
      exact ⟨fun x hx => (hall x hx).2, hs.2⟩
    · rintro ⟨hall, hs⟩
      exact ⟨fun x hx => ⟨hshape x hx, hall x hx⟩, hshape', hs⟩
  refine ⟨?_, hiff⟩
  intro hok
  obtain ⟨hall, hs⟩ := hiff.mp hok
  exact ⟨fun x hx => (hall x hx).lastStateWins, hs.lastStateWins⟩

/-- A dialog that is shown, moved and dismissed, and set again only when
the animation has ended. -/
theorem lastStateWins_always_iff_dismissed :
    ∃ r ∈ follow (step ⟨0, false, 100, 10, 500⟩) (construct ⟨0, false, 100, 10, 500⟩)
        [.setState positionMiddle ringerModeNormal, .showDialog,
          .setState positionTop ringerModeSilent, .onAnimationUpdate 1 10 420, .dismissDialog,
          .onAnimationEnd 1, .setState positionBottom ringerModeVibrate],
      (∀ x ∈ r.1, LastStateWins ⟨0, false, 100, 10, 500⟩ x.1) ∧
        LastStateWins ⟨0, false, 100, 10, 500⟩ r.2 := by
  have hrun : ∃ r ∈ follow (step ⟨0, false, 100, 10, 500⟩) (construct ⟨0, false, 100, 10, 500⟩)
      [.setState positionMiddle ringerModeNormal, .showDialog,
        .setState positionTop ringerModeSilent, .onAnimationUpdate 1 10 420, .dismissDialog,
        .onAnimationEnd 1, .setState positionBottom ringerModeVibrate],
      ∀ x ∈ r.1, FindsNoOther ⟨0, false, 100, 10, 500⟩ x.1 x.2 := by
    decide +kernel
  obtain ⟨r, hr, hok⟩ := hrun
  exact ⟨r, hr, (lastStateWins_always_iff (path_of_follow hr)).1 hok⟩

/-- **The older state wins**: the dialog moves to the top, is dismissed and
set to the bottom at once, and then the animation ends at the top. -/
theorem older_state_wins :
    ∃ r ∈ follow (step ⟨0, false, 100, 10, 500⟩) (construct ⟨0, false, 100, 10, 500⟩)
        [.showDialog, .setState positionTop ringerModeSilent, .dismissDialog,
          .setState positionBottom ringerModeNormal, .onAnimationEnd 1],
      r.2.running = [] ∧ r.2.attributes = (10, 400) ∧ r.2.background = some .alertSliderTop ∧
        r.2.icon = some .icVolumeRinger ∧ ¬ LastStateWins ⟨0, false, 100, 10, 500⟩ r.2 := by
  have hrun : ∃ r ∈ follow (step ⟨0, false, 100, 10, 500⟩) (construct ⟨0, false, 100, 10, 500⟩)
      [.showDialog, .setState positionTop ringerModeSilent, .dismissDialog,
        .setState positionBottom ringerModeNormal, .onAnimationEnd 1],
      r.2.running = [] ∧ r.2.attributes = (10, 400) ∧ r.2.background = some .alertSliderTop ∧
        r.2.icon = some .icVolumeRinger ∧
        r.2.lastState = some (positionBottom, ringerModeNormal) := by
    decide +kernel
  obtain ⟨r, hr, hrunning, hx, hb, hicon, hlast⟩ := hrun
  refine ⟨r, hr, hrunning, hx, hb, hicon, ?_⟩
  intro hwins
  obtain ⟨hx', -⟩ := hwins positionBottom ringerModeNormal hlast hrunning
  rw [hx] at hx'
  exact absurd hx' (by decide)

end OplusHardware.AlertSlider.Dialog
