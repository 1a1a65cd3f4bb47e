import OplusHardware.Base.Calls
import OplusHardware.LiveDisplay.AntiFlicker

/-!
# LiveDisplay — the panel that the services share

`/dev/oplus_display` is driven by the LiveDisplay services, which take
calls on several binder threads, and by the fingerprint HAL in a process of
its own. Their ioctls interleave.

`class AdaptiveBacklight` and `class SunlightEnhancement` are a switch
each: they read their feature, compare, and write it where it differs. No
lock is held over the two ioctls.
-/

namespace OplusHardware.LiveDisplay.SharedPanel

open OplusHardware.Base

/-! ## The driver -/

/-- The features behind the `PANEL_IOCTL_*` requests. -/
inductive Feature where
  | seed
  | hbm
  | dimlayerHbm
  | dimlayerBlEn
  | fpPress
  | cabcStatus
  | pwmTurbo
  | pwmPulse
  deriving DecidableEq, Repr

abbrev Panel := Feature → UInt32

inductive PanelOp where
  | get (f : Feature)
  | set (f : Feature) (value : UInt32)

abbrev PanelOp.Res : PanelOp → Type
  | .get _ => Option UInt32
  | .set _ _ => Bool

def PanelOp.feature : PanelOp → Feature
  | .get f => f
  | .set f _ => f

/-- One ioctl, which works or changes nothing. -/
def serve (s : Panel) : (op : PanelOp) → Bool → Panel × op.Res
  | .get f, works => (s, if works then some (s f) else none)
  | .set f value, works => if works then (Function.update s f value, true) else (s, false)

abbrev PanelProg := Prog PanelOp PanelOp.Res AStatus

/-! ## The switches -/

/-- `getEnabled` of a switch on `f`. -/
def getFeature (f : Feature) : PanelProg Bool := do
  match ← .perform (PanelOp.get f) with
  | some value => return decide (0 < value)
  | none => .throw .exUnsupportedOperation

/-- The write of a `setEnabled` that has found the other value. -/
def writeFeature (f : Feature) (enabled : Bool) : PanelProg Unit := do
  match ← .perform (PanelOp.set f enabled.toUInt32) with
  | true => return ()
  | false => .throw .exUnsupportedOperation

/-- `setEnabled` of a switch on `f`. -/
def setFeature (f : Feature) (enabled : Bool) : PanelProg Unit := do
  let isEnabled ← getFeature f
  if isEnabled ≠ enabled then writeFeature f enabled

namespace AdaptiveBacklight

def getEnabled : PanelProg Bool := getFeature .cabcStatus

def setEnabled (enabled : Bool) : PanelProg Unit := setFeature .cabcStatus enabled

end AdaptiveBacklight

namespace SunlightEnhancement

def getEnabled : PanelProg Bool := getFeature .hbm

def setEnabled (enabled : Bool) : PanelProg Unit := setFeature .hbm enabled

end SunlightEnhancement

/-! ## The calls -/

inductive Switch where
  | adaptiveBacklight
  | sunlightEnhancement
  deriving DecidableEq, Repr

def Switch.feature : Switch → Feature
  | .adaptiveBacklight => .cabcStatus
  | .sunlightEnhancement => .hbm

/-- The features of `AntiFlicker`, on the shared panel. -/
def antiFlickerFeature : AntiFlicker.Feature → Feature
  | .pwmPulse => .pwmPulse
  | .pwmTurbo => .pwmTurbo
  | .dimlayerBlEn => .dimlayerBlEn

def antiFlickerOp : AntiFlicker.PanelOp → PanelOp
  | .get f => .get (antiFlickerFeature f)
  | .set f value => .set (antiFlickerFeature f) value

def antiFlickerRes : (op : AntiFlicker.PanelOp) → (antiFlickerOp op).Res → op.Res
  | .get _, r => r
  | .set _ _, r => r

/-- A call of one of the services. -/
inductive Call where
  | getEnabled (switch : Switch)
  | setEnabled (switch : Switch) (enabled : Bool)
  | antiFlickerGetEnabled
  | antiFlickerSetEnabled (enabled : Bool)
  /-- the ioctl of `DisplayModes::setDisplayMode` -/
  | setSeed (seedMode : UInt32)
  /-- `BiometricsFingerprint::setDimlayerHbm`, in any of its methods -/
  | setDimlayerHbm (value : UInt32)
  /-- `BiometricsFingerprint::setFpPress`, in any of its methods -/
  | setFpPress (value : UInt32)
  deriving DecidableEq, Repr

/-- An ioctl whose result is not an error of the call. -/
def ioctlSet (f : Feature) (value : UInt32) : PanelProg Bool := .perform (PanelOp.set f value)

/-- The ioctls of a call. What `getEnabled` stores in `*_aidl_return` is the
answer. -/
def body : Call → PanelProg (Option Bool)
  | .getEnabled .adaptiveBacklight => some <$> AdaptiveBacklight.getEnabled
  | .getEnabled .sunlightEnhancement => some <$> SunlightEnhancement.getEnabled
  | .setEnabled .adaptiveBacklight enabled =>
      (fun _ => none) <$> AdaptiveBacklight.setEnabled enabled
  | .setEnabled .sunlightEnhancement enabled =>
      (fun _ => none) <$> SunlightEnhancement.setEnabled enabled
  | .antiFlickerGetEnabled =>
      (some <$> AntiFlicker.getEnabled).relabel antiFlickerOp antiFlickerRes
  | .antiFlickerSetEnabled enabled =>
      ((fun _ => none) <$> AntiFlicker.setEnabled enabled).relabel antiFlickerOp
        antiFlickerRes
  | .setSeed seedMode => (fun _ => none) <$> ioctlSet .seed seedMode
  | .setDimlayerHbm value => some <$> ioctlSet .dimlayerHbm value
  | .setFpPress value => some <$> ioctlSet .fpPress value

/-- The services and the HAL on one panel, each call an interleaved program. -/
def services : Object Panel Call (PanelProg (Option Bool)) Bool
    (Except AStatus (Option Bool)) := .ofProg body serve

theorem body_getEnabled (switch : Switch) :
    body (.getEnabled switch) = some <$> getFeature switch.feature := by
  cases switch <;> rfl

theorem body_setEnabled (switch : Switch) (enabled : Bool) :
    body (.setEnabled switch enabled) = (fun _ => none) <$> setFeature switch.feature enabled := by
  cases switch <;> rfl

/-! ## What the switches are for -/

/-- Two independent booleans. -/
abbrev Switches := Switch → Bool

/-- What the panel shows the two services. -/
def shown (s : Panel) : Switches := fun switch => decide (0 < s switch.feature)

/-- A call on two atomic switches, whose ioctls ended as `os`: if all of them
worked it does what it says, and an error is answered, with nothing done,
only where one of them failed. The calls of the other services leave the
switches alone and answer as they like, but for errors. -/
def spec (s : Switches) (c : Call) (os : List Bool) :
    Except AStatus (Option Bool) → Option Switches
  | .error e => if e = .exUnsupportedOperation ∧ false ∈ os then some s else none
  | .ok answer =>
      match c with
      | .getEnabled switch =>
          if answer = some (s switch) ∧ false ∉ os then some s else none
      | .setEnabled switch enabled =>
          if answer = none ∧ false ∉ os then some (Function.update s switch enabled) else none
      | _ => some s

/-! ## One ioctl of a call -/

/-- The ioctl is on a feature of no switch. -/
def Elsewhere (op : PanelOp) : Prop := ∀ switch : Switch, op.feature ≠ switch.feature

/-- The program throws only where an ioctl has failed; `failed` says whether
one has before it. -/
def ThrowsFailed {α : Type} : Bool → PanelProg α → Prop
  | _, .ret _ => True
  | failed, .throw e => e = .exUnsupportedOperation ∧ failed = true
  | failed, .call op k =>
      ∀ (s : Panel) (works : Bool), ThrowsFailed (failed || !works) (k (serve s op works).2)

/-- What may be left of a call in progress whose ioctls so far ended as
`os`. -/
def Pending : Call → PanelProg (Option Bool) → List Bool → Prop
  | .getEnabled switch, x, os => x = some <$> getFeature switch.feature ∧ os = []
  | .setEnabled switch enabled, x, os =>
      x = (fun _ => none) <$> setFeature switch.feature enabled ∧ os = [] ∨
        x = (fun _ => none) <$> writeFeature switch.feature enabled ∧ os = [true]
  | _, x, os => x.Calls Elsewhere ∧ ThrowsFailed (os.contains false) x

theorem antiFlickerFeature_ne (f : AntiFlicker.Feature) (switch : Switch) :
    antiFlickerFeature f ≠ switch.feature := by
  cases f <;> cases switch <;> decide

theorem calls_antiFlicker {α : Type} (x : AntiFlicker.PanelProg α) :
    (x.relabel antiFlickerOp antiFlickerRes).Calls Elsewhere := by
  apply Prog.calls_relabel
  intro op
  cases op with
  | get f => exact antiFlickerFeature_ne f
  | set f value => exact antiFlickerFeature_ne f

/-- A call that is one ioctl elsewhere. -/
theorem calls_ioctlSet {f : Feature} (hf : ∀ switch : Switch, f ≠ switch.feature)
    (value : UInt32) (g : Bool → Option Bool) :
    (g <$> ioctlSet f value).Calls Elsewhere ∧ ThrowsFailed false (g <$> ioctlSet f value) :=
  ⟨⟨hf, fun _ => trivial⟩, fun _ _ => trivial⟩

section AntiFlicker

variable {α : Type} {failed : Bool}

/-- The chain of reads throws when all of them have failed. -/
theorem throwsFailed_ioctlGet {g : UInt32 → AntiFlicker.PanelProg α}
    (hg : ∀ failed value,
      ThrowsFailed failed ((g value).relabel antiFlickerOp antiFlickerRes))
    {fs : List AntiFlicker.Feature} (hfs : fs ≠ [] ∨ failed = true) :
    ThrowsFailed failed
      ((AntiFlicker.ioctlGet fs >>= g).relabel antiFlickerOp antiFlickerRes) := by
  induction fs generalizing failed with
  | nil => exact ⟨rfl, hfs.resolve_left (by simp)⟩
  | cons f fs ih =>
      intro s works
      cases works with
      | true => exact hg _ _
      | false => exact ih (.inr (by simp))

theorem throwsFailed_ioctlSet {g : Unit → AntiFlicker.PanelProg α}
    (hg : ∀ failed, ThrowsFailed failed ((g ()).relabel antiFlickerOp antiFlickerRes))
    (value : UInt32) {fs : List AntiFlicker.Feature} (hfs : fs ≠ [] ∨ failed = true) :
    ThrowsFailed failed
      ((AntiFlicker.ioctlSet value fs >>= g).relabel antiFlickerOp antiFlickerRes) := by
  induction fs generalizing failed with
  | nil => exact ⟨rfl, hfs.resolve_left (by simp)⟩
  | cons f fs ih =>
      intro s works
      cases works with
      | true => exact hg _
      | false => exact ih (.inr (by simp))

theorem throwsFailed_getEnabled : ThrowsFailed false (body .antiFlickerGetEnabled) := by
  simp only [body, AntiFlicker.getEnabled, map_bind]
  refine throwsFailed_ioctlGet ?_ (.inl (List.cons_ne_nil _ _))
  intro failed value
  exact trivial

theorem throwsFailed_setEnabled (enabled : Bool) :
    ThrowsFailed false (body (.antiFlickerSetEnabled enabled)) := by
  simp only [body, AntiFlicker.setEnabled, AntiFlicker.getEnabled, map_bind, bind_assoc,
    pure_bind]
  refine throwsFailed_ioctlGet ?_ (.inl (List.cons_ne_nil _ _))
  intro failed value
  cases decide (0 < value) != enabled with
  | false => exact trivial
  | true =>
      simp only [map_eq_pure_bind]
      refine throwsFailed_ioctlSet ?_ _ (.inl (List.cons_ne_nil _ _))
      intro failed
      exact trivial

end AntiFlicker

theorem pending_body (c : Call) : Pending c (body c) [] := by
  cases c with
  | getEnabled switch => exact ⟨body_getEnabled switch, rfl⟩
  | setEnabled switch enabled => exact .inl ⟨body_setEnabled switch enabled, rfl⟩
  | antiFlickerGetEnabled => exact ⟨calls_antiFlicker _, throwsFailed_getEnabled⟩
  | antiFlickerSetEnabled enabled =>
      exact ⟨calls_antiFlicker _, throwsFailed_setEnabled enabled⟩
  | setSeed seedMode => exact calls_ioctlSet (fun switch => by cases switch <;> decide) _ _
  | setDimlayerHbm value =>
      exact calls_ioctlSet (fun switch => by cases switch <;> decide) _ _
  | setFpPress value => exact calls_ioctlSet (fun switch => by cases switch <;> decide) _ _

theorem feature_injective {a b : Switch} (h : a.feature = b.feature) : a = b := by
  cases a <;> cases b <;> first | rfl | cases h

/-- Writing a switch's feature switches it, and no other. -/
theorem shown_update (s : Panel) (switch : Switch) (enabled : Bool) :
    shown (Function.update s switch.feature enabled.toUInt32) =
      Function.update (shown s) switch enabled := by
  funext other
  by_cases h : other = switch
  · subst h
    simpa [shown] using AntiFlicker.decide_toUInt32 enabled
  · have hne : other.feature ≠ switch.feature := fun he => h (feature_injective he)
    simp [shown, h, hne]

/-- An ioctl elsewhere leaves the switches as they are. -/
theorem shown_serve {op : PanelOp} (hop : Elsewhere op) (s : Panel) (works : Bool) :
    shown (serve s op works).1 = shown s := by
  cases op with
  | get f => rfl
  | set f value =>
      cases works with
      | false => rfl
      | true =>
          funext switch
          have hne : switch.feature ≠ f := fun h => hop switch h.symm
          simp [serve, shown, hne]

/-- What one ioctl of a call comes to. -/
abbrev Outcome (c : Call) (os : List Bool) (s s' : Panel)
    (r : PanelProg (Option Bool) ⊕ Except AStatus (Option Bool)) : Prop :=
  Object.Outcome shown Pending spec c os s s' r

variable {s s' : Panel} {works : Bool} {x : PanelProg (Option Bool)} {os : List Bool}
  {r : PanelProg (Option Bool) ⊕ Except AStatus (Option Bool)}

/-- A failed ioctl ends a call with an error. -/
theorem outcome_error (c : Call) (hfailed : false ∈ os) (s : Panel) :
    Outcome c os s s (.inr (.error .exUnsupportedOperation)) :=
  .inr ⟨_, rfl, by simp [spec, hfailed]⟩

/-- A read ends the call with what the switch shows. -/
theorem getEnabled_move (switch : Switch)
    (hr : services.move s (some <$> getFeature switch.feature) works = some (s', r)) :
    Outcome (.getEnabled switch) [works] s s' r := by
  cases works with
  | true =>
      cases hr
      refine .inr ⟨.ok (some (shown s switch)), rfl, ?_⟩
      simp only [spec, List.mem_singleton, Bool.false_eq_true, not_false_eq_true, and_self,
        if_true]
      rfl
  | false =>
      cases hr
      exact outcome_error _ (by simp) _

/-- The write ends the call, and switches. -/
theorem writeFeature_move (switch : Switch) (enabled : Bool)
    (hr : services.move s ((fun _ => none) <$> writeFeature switch.feature enabled) works =
      some (s', r)) : Outcome (.setEnabled switch enabled) [true, works] s s' r := by
  cases works with
  | true =>
      cases hr
      refine .inr ⟨.ok none, rfl, ?_⟩
      rw [show (serve s (.set switch.feature enabled.toUInt32) true).1 =
        Function.update s switch.feature enabled.toUInt32 from rfl, shown_update]
      simp [spec]
  | false =>
      cases hr
      exact outcome_error _ (by simp) _

/-- The read of a `setEnabled`: it finds the switch as it is to be, which is
then the moment the call takes effect, or goes on to write. -/
theorem setFeature_move (switch : Switch) (enabled : Bool)
    (hr : services.move s ((fun _ => none) <$> setFeature switch.feature enabled) works =
      some (s', r)) : Outcome (.setEnabled switch enabled) [works] s s' r := by
  cases works with
  | false =>
      cases hr
      exact outcome_error _ (by simp) _
  | true =>
      have hrest : Object.rest ((fun _ => none) <$>
          (if shown s switch ≠ enabled then writeFeature switch.feature enabled
            else pure ())) = r ∧ s = s' := by
        cases hr
        exact ⟨rfl, rfl⟩
      obtain ⟨rfl, rfl⟩ := hrest
      by_cases hfound : shown s switch = enabled
      · refine .inr ⟨.ok none, by rw [if_neg (not_not.mpr hfound)]; rfl, ?_⟩
        have hsame : Function.update (shown s) switch enabled = shown s := by
          rw [← hfound, Function.update_eq_self]
        simp [spec, hsame]
      · exact .inl ⟨_, by rw [if_pos hfound]; rfl, .inr ⟨rfl, rfl⟩, rfl⟩

/-- Another service's ioctl: its call goes on, or answers, and the switches
are as they were. -/
theorem elsewhere_move {c : Call}
    (hc : Pending c = fun x os => x.Calls Elsewhere ∧ ThrowsFailed (os.contains false) x)
    (hspec : ∀ p os answer, spec p c os (.ok answer) = some p)
    (hx : x.Calls Elsewhere ∧ ThrowsFailed (os.contains false) x)
    (hr : services.move s x works = some (s', r)) : Outcome c (os ++ [works]) s s' r := by
  obtain ⟨hcalls, hthrows⟩ := hx
  cases x with
  | ret a => cases hr
  | throw e => cases hr
  | call op k =>
      have hs : shown (serve s op works).1 = shown s := shown_serve hcalls.1 s works
      have hrest := hcalls.2 (serve s op works).2
      have hfailed : ThrowsFailed ((os ++ [works]).contains false) (k (serve s op works).2) := by
        have h := hthrows s works
        cases works <;> simpa using h
      generalize hk : k (serve s op works).2 = y at hrest hfailed
      have hcases : Object.rest y = r ∧ (serve s op works).1 = s' := by
        simp only [services, Object.ofProg, hk, Option.some.injEq, Prod.mk.injEq] at hr
        exact ⟨hr.2, hr.1⟩
      obtain ⟨rfl, rfl⟩ := hcases
      cases y with
      | ret a => exact .inr ⟨.ok a, rfl, by rw [hspec, hs]⟩
      | throw e =>
          obtain ⟨rfl, hmem⟩ := hfailed
          refine .inr ⟨_, rfl, ?_⟩
          rw [hs]
          simp [spec, List.contains_iff_mem.mp hmem]
      | call op' k' => exact .inl ⟨_, rfl, by rw [hc]; exact ⟨hrest, hfailed⟩, hs⟩

/-- **One ioctl of any call.** -/
theorem services_move (c : Call) (hx : Pending c x os)
    (hr : services.move s x works = some (s', r)) : Outcome c (os ++ [works]) s s' r := by
  cases c with
  | getEnabled switch =>
      obtain ⟨rfl, rfl⟩ := hx
      exact getEnabled_move switch hr
  | setEnabled switch enabled =>
      rcases hx with ⟨rfl, rfl⟩ | ⟨rfl, rfl⟩
      · exact setFeature_move switch enabled hr
      · exact writeFeature_move switch enabled hr
  | antiFlickerGetEnabled => exact elsewhere_move rfl (fun _ _ _ => rfl) hx hr
  | antiFlickerSetEnabled enabled => exact elsewhere_move rfl (fun _ _ _ => rfl) hx hr
  | setSeed seedMode => exact elsewhere_move rfl (fun _ _ _ => rfl) hx hr
  | setDimlayerHbm value => exact elsewhere_move rfl (fun _ _ _ => rfl) hx hr
  | setFpPress value => exact elsewhere_move rfl (fun _ _ _ => rfl) hx hr

/-! ## Whole runs -/

/-- **The switches are linearizable.** Whatever threads call the services and
the HAL, whatever they call and however the ioctls interleave and fail: what
the threads see of `AdaptiveBacklight` and `SunlightEnhancement` is what they
could see of two booleans that each call reads or sets at once, at some
moment between its invocation and its answer. A call whose own ioctls all
work does so, and only one that had an ioctl fail answers an error. -/
theorem switches_linearizable {ι : Type} [DecidableEq ι] (p : Panel)
    (h : List (Callers ι Panel Call (PanelProg (Option Bool)) Bool
      (Except AStatus (Option Bool)) × CallEvent ι Call Bool))
    (q : Callers ι Panel Call (PanelProg (Option Bool)) Bool (Except AStatus (Option Bool)))
    (hp : Path services.step (Object.fresh p) h q) :
    ∃ h' q', Path (Object.atomicStep spec) (Object.fresh (shown p)) h' q' ∧
      q'.store = shown q.store ∧ h'.flatMap seen = h.flatMap seen :=
  Object.linearizable pending_body (fun _ c _ _ _ _ _ hx hr => services_move c hx hr) hp

/-- Two threads turn the sunlight enhancement on and off: both have read it
before either writes. The fingerprint HAL sets its own layer meanwhile, and
a read of the adaptive backlight fails. -/
def race : List (CallEvent (Fin 4) Call Bool) :=
  [.invoke 0 (.setEnabled .sunlightEnhancement true),
    .invoke 1 (.setEnabled .sunlightEnhancement true),
    .act 0 true, .act 1 true, .act 1 true, .collect 1,
    .invoke 1 (.setEnabled .sunlightEnhancement false),
    .invoke 2 (.setDimlayerHbm 1), .act 1 true, .act 2 true, .act 1 true, .collect 1,
    .collect 2, .invoke 3 (.setEnabled .adaptiveBacklight true), .act 3 false, .collect 3,
    .act 0 true, .collect 0, .invoke 3 (.getEnabled .sunlightEnhancement), .act 3 true,
    .collect 3]

/-- What the threads see of it. -/
def raceSeen : List (Interaction (Fin 4) Call Bool (Except AStatus (Option Bool))) :=
  [.invoked 0 (.setEnabled .sunlightEnhancement true),
    .invoked 1 (.setEnabled .sunlightEnhancement true),
    .answered 1 (.setEnabled .sunlightEnhancement true) [true, true] (.ok none),
    .invoked 1 (.setEnabled .sunlightEnhancement false),
    .invoked 2 (.setDimlayerHbm 1),
    .answered 1 (.setEnabled .sunlightEnhancement false) [true, true] (.ok none),
    .answered 2 (.setDimlayerHbm 1) [true] (.ok (some true)),
    .invoked 3 (.setEnabled .adaptiveBacklight true),
    .answered 3 (.setEnabled .adaptiveBacklight true) [false]
      (.error .exUnsupportedOperation),
    .answered 0 (.setEnabled .sunlightEnhancement true) [true, true] (.ok none),
    .invoked 3 (.getEnabled .sunlightEnhancement),
    .answered 3 (.getEnabled .sunlightEnhancement) [true] (.ok (some true))]

theorem switches_linearizable_race :
    ∃ r ∈ follow services.step (Object.fresh fun _ => 0) race,
      r.2.store .hbm = 1 ∧ r.2.store .cabcStatus = 0 ∧ r.2.store .dimlayerHbm = 1 ∧
      ∃ h' q', Path (Object.atomicStep spec) (Object.fresh (shown fun _ => 0)) h' q' ∧
        q'.store .sunlightEnhancement = true ∧ q'.store .adaptiveBacklight = false ∧
        h'.flatMap seen = raceSeen := by
  have hrun : ∃ r ∈ follow services.step (Object.fresh fun _ => 0) race,
      r.2.store .hbm = 1 ∧ r.2.store .cabcStatus = 0 ∧ r.2.store .dimlayerHbm = 1 ∧
        r.1.flatMap seen = raceSeen := ⟨_, rfl, rfl, rfl, rfl, rfl⟩
  obtain ⟨r, hr, hhbm, hcabc, hlayer, hseen⟩ := hrun
  obtain ⟨h', q', hp, hstore, hsame⟩ := switches_linearizable (fun _ => 0) r.1 r.2
    (path_of_follow hr)
  refine ⟨r, hr, hhbm, hcabc, hlayer, h', q', hp, ?_, ?_, hsame.trans hseen⟩
  · rw [hstore]
    show decide (0 < r.2.store .hbm) = true
    rw [hhbm]
    rfl
  · rw [hstore]
    show decide (0 < r.2.store .cabcStatus) = false
    rw [hcabc]
    rfl

end OplusHardware.LiveDisplay.SharedPanel
