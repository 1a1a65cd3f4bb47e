import OplusHardware.Base.Path

/-!
# Pen — PenService

`overridePeakRefreshRateIfNeeded` lowers the peak refresh rate while a pen
is connected, and raises it again when the pen has gone. The service keeps
no copy of the setting: what it has changed is inferred from a flag of the
object and from the value that it finds.
-/

namespace OplusHardware.Pen

open OplusHardware.Base

/-! ## The system -/

/-- What the service asks of an `InputDevice`. -/
structure InputDevice where
  vendorId : Nat
  bluetoothAddress : Option String
  deriving DecidableEq, Repr

/-- The predicate of `firstOrNull`; a device that has gone in between is
`none`. -/
def isPen : Option InputDevice → Bool
  | none => false
  | some device =>
      if device.vendorId ≠ 0x22D9 ∧ device.vendorId ≠ 0x330A then false
      else if device.bluetoothAddress.map (·.startsWith "C0:87:06") = some false ∧
          device.bluetoothAddress.map (·.startsWith "F8:6F:DE") = some false then false
      else true

/-- The input devices, `PEAK_REFRESH_RATE`, the `wasPenConnected` of the
`PenService` if one runs, and how many callbacks its handler has yet to
run. The callbacks of the input manager and of the setting all do the
same. -/
structure Sys where
  devices : List (Option InputDevice)
  peakRefreshRate : Option String
  service : Option Bool
  pending : Nat
  deriving DecidableEq, Repr

namespace Sys

/-- `isPenConnected`. -/
def isPenConnected (s : Sys) : Bool := (s.devices.find? isPen).isSome

/-- An observer is called, if a service has registered one. -/
def post (s : Sys) : Sys :=
  if s.service.isSome then { s with pending := s.pending + 1 } else s

/-- `Settings.System.putString`, which calls the observer of the setting. -/
def putString (s : Sys) (value : Option String) : Sys :=
  post { s with peakRefreshRate := value }

/-- `overridePeakRefreshRateIfNeeded` of a service with this
`wasPenConnected`. -/
def overridePeakRefreshRateIfNeeded (penSupportedRefreshRate : String) (wasPenConnected : Bool)
    (s : Sys) : Sys :=
  let wasPenConnected := wasPenConnected || s.isPenConnected
  if s.isPenConnected ∧ s.peakRefreshRate = some "Infinity" then
    { s with service := some wasPenConnected }.putString (some penSupportedRefreshRate)
  else if wasPenConnected ∧ ¬ s.isPenConnected ∧
      s.peakRefreshRate = some penSupportedRefreshRate then
    { s with service := some false }.putString (some "Infinity")
  else { s with service := some wasPenConnected }

/-- `onCreate` of a fresh object. -/
def onCreate (penSupportedRefreshRate : String) (s : Sys) : Sys :=
  let s := { s with service := some false, pending := 0 }
  if penSupportedRefreshRate.isEmpty then s
  else s.overridePeakRefreshRateIfNeeded penSupportedRefreshRate false

end Sys

/-! ## Events -/

inductive Event where
  /-- the input devices change, by a pen or by anything else -/
  | inputDevices (devices : List (Option InputDevice))
  /-- somebody else writes the setting -/
  | write (value : Option String)
  /-- the handler runs a callback -/
  | deliver
  /-- a service is started, in place of the one that ran if any -/
  | create
  /-- the service is gone, with its callbacks -/
  | stop
  deriving DecidableEq, Repr

/-- What an event does. Nobody else writes the setting while a pen is
connected. -/
def Event.handle (penSupportedRefreshRate : String) (s : Sys) : Event → Option Sys
  | .inputDevices devices => some (Sys.post { s with devices := devices })
  | .write value => if s.isPenConnected then none else some (s.putString value)
  | .deliver =>
      match s.service, s.pending with
      | some wasPenConnected, n + 1 =>
          some ({ s with pending := n }.overridePeakRefreshRateIfNeeded
            penSupportedRefreshRate wasPenConnected)
      | _, _ => none
  | .create => some (s.onCreate penSupportedRefreshRate)
  | .stop => some { s with service := none, pending := 0 }

/-- What is to be compared: the value just before the last pen came, as
long as nobody else has written the setting since; and whether the service
has looked at the devices since the last pen went. -/
structure Mark where
  before : Option (Option String)
  handled : Bool
  deriving DecidableEq, Repr

def Event.mark (s : Sys) (g : Mark) : Event → Mark
  | .inputDevices devices =>
      if s.isPenConnected then
        { g with handled := g.handled && ({ s with devices := devices } : Sys).isPenConnected }
      else if ({ s with devices := devices } : Sys).isPenConnected then
        { g with before := some s.peakRefreshRate }
      else g
  | .write _ => { g with before := none }
  | .deliver => { g with handled := g.handled || !s.isPenConnected }
  | .create => { g with handled := g.handled || !s.isPenConnected }
  | .stop => g

structure State where
  sys : Sys
  mark : Mark
  deriving DecidableEq, Repr

def step (penSupportedRefreshRate : String) (s : State) (e : Event) : Option State :=
  (e.handle penSupportedRefreshRate s.sys).map fun t => ⟨t, e.mark s.sys s.mark⟩

/-- No service runs yet, and no pen has come. -/
def State.initial (devices : List (Option InputDevice)) (peakRefreshRate : Option String) :
    State :=
  ⟨⟨devices, peakRefreshRate, none, 0⟩, ⟨none, false⟩⟩

/-! ## What an override does -/

namespace Sys

variable (rate : String) (was : Bool) {s : Sys}

@[simp] theorem post_devices : s.post.devices = s.devices := by
  rw [post]; split <;> rfl

@[simp] theorem post_peakRefreshRate : s.post.peakRefreshRate = s.peakRefreshRate := by
  rw [post]; split <;> rfl

@[simp] theorem post_service : s.post.service = s.service := by
  rw [post]; split <;> rfl

@[simp] theorem isPenConnected_post : s.post.isPenConnected = s.isPenConnected := by
  rw [isPenConnected, post_devices, isPenConnected]

/-- With a pen, the flag is set, and an unlimited rate is lowered. -/
theorem override_of_pen (hpen : s.isPenConnected = true) :
    let t := s.overridePeakRefreshRateIfNeeded rate was
    t.devices = s.devices ∧ t.service = some true ∧
      t.peakRefreshRate =
        if s.peakRefreshRate = some "Infinity" then some rate else s.peakRefreshRate := by
  simp only [overridePeakRefreshRateIfNeeded, hpen, Bool.or_true, true_and, not_true, false_and,
    and_false, if_false]
  split_ifs <;> simp [putString]

/-- Without one, a lowered rate is raised by a service that has seen the
pen, which it forgets; another one changes nothing. -/
theorem override_of_no_pen (hpen : s.isPenConnected = false) :
    let t := s.overridePeakRefreshRateIfNeeded rate was
    t.devices = s.devices ∧
      if was = true ∧ s.peakRefreshRate = some rate then
        t.service = some false ∧ t.peakRefreshRate = some "Infinity"
      else
        t.service = some was ∧ t.peakRefreshRate = s.peakRefreshRate ∧ t.pending = s.pending := by
  simp only [overridePeakRefreshRateIfNeeded, hpen, Bool.or_false]
  split_ifs with hwas hraise <;> simp_all [putString]

variable {rate was} {t : Sys}

/-- A service that is started looks at the devices, and has seen no pen. -/
theorem onCreate_eq (hrate : rate ≠ "") :
    s.onCreate rate =
      ({ s with service := some false, pending := 0 } : Sys).overridePeakRefreshRateIfNeeded
        rate false := by
  rw [onCreate, if_neg]
  simpa using hrate

/-- A callback is run by a service, and looks at the devices. -/
theorem deliver_inv (h : Event.handle rate s .deliver = some t) :
    ∃ was n, s.service = some was ∧ s.pending = n + 1 ∧
      t = ({ s with pending := n } : Sys).overridePeakRefreshRateIfNeeded rate was := by
  rw [Event.handle] at h
  split at h
  · rename_i was n hservice hpending
    exact ⟨was, n, hservice, hpending, (Option.some.inj h).symm⟩
  · cases h

end Sys

/-! ## The override is undone -/

namespace State

variable {rate : String} {s t : State} {e : Event}

/-- **The override is undone**: when the service has looked at the devices
since the pen went, the setting has the value from just before it came. -/
def Restored (s : State) : Prop :=
  s.sys.isPenConnected = false → s.mark.handled = true →
    ∀ v, s.mark.before = some v → s.sys.peakRefreshRate = v

/-- The steps that do not go wrong. A callback that runs without a pen does
not raise a rate that had the value of the pen already when the pen came;
and a service is not started without a pen while the setting is changed. -/
def Harmless (rate : String) (s : State) : Event → Prop
  | .deliver =>
      ¬ (s.sys.isPenConnected = false ∧ s.sys.service = some true ∧
        s.sys.peakRefreshRate = some rate ∧ s.mark.before = some (some rate) ∧ rate ≠ "Infinity")
  | .create =>
      s.sys.isPenConnected = false →
        s.mark.before = none ∨ s.mark.before = some s.sys.peakRefreshRate
  | _ => True

instance (rate : String) (s : State) (e : Event) : Decidable (Harmless rate s e) :=
  match e with
  | .deliver => inferInstanceAs (Decidable (¬ _))
  | .create => inferInstanceAs (Decidable (_ → _))
  | .inputDevices _ => instDecidableTrue
  | .write _ => instDecidableTrue
  | .stop => instDecidableTrue

/-- The rate is lowered from "Infinity" by a service that knows it, and not
yet looked at without the pen. -/
structure Lowered (rate : String) (v : Option String) (s : State) : Prop where
  before : v = some "Infinity"
  now : s.sys.peakRefreshRate = some rate
  known : ∀ was, s.sys.service = some was → was = true
  handled : s.sys.isPenConnected = false → s.mark.handled = false

/-- **What holds between the steps**: the setting is as it was before the
pen came, or lowered. -/
def Kept (rate : String) (s : State) : Prop :=
  ∀ v, s.mark.before = some v → s.sys.peakRefreshRate = v ∨ Lowered rate v s

section Override

variable {was : Bool} {sys : Sys} {mark : Mark}

/-- An override with a pen in sight keeps the setting, or lowers it. -/
theorem Kept.override_of_pen (h : Kept rate s) (hpen : sys.isPenConnected = true)
    (hpeak : sys.peakRefreshRate = s.sys.peakRefreshRate) (hmark : mark.before = s.mark.before) :
    Kept rate ⟨sys.overridePeakRefreshRateIfNeeded rate was, mark⟩ := by
  obtain ⟨hdevices, hservice, hnew⟩ := Sys.override_of_pen rate was hpen
  have hsight : (sys.overridePeakRefreshRateIfNeeded rate was).isPenConnected = true := by
    rw [Sys.isPenConnected, hdevices]
    exact hpen
  have hlowered : ∀ v, v = some "Infinity" →
      (sys.overridePeakRefreshRateIfNeeded rate was).peakRefreshRate = some rate →
      Lowered rate v ⟨sys.overridePeakRefreshRateIfNeeded rate was, mark⟩ := by
    intro v hv hnow
    refine ⟨hv, hnow, ?_, ?_⟩
    · intro w hw
      rw [hservice] at hw
      exact (Option.some.inj hw).symm
    · intro hno
      rw [hsight] at hno
      cases hno
  intro v hv
  rw [hmark] at hv
  rw [hpeak] at hnew
  rcases h v hv with hsame | hlow
  · by_cases hmax : s.sys.peakRefreshRate = some "Infinity"
    · right
      apply hlowered v (hsame.symm.trans hmax)
      rw [hnew, if_pos hmax]
    · left
      rw [hnew, if_neg hmax]
      exact hsame
  · right
    apply hlowered v hlow.before
    rw [hnew, hlow.now, ite_self]

/-- An override without one leaves the value from before, unless that is
the rate of the pen. -/
theorem override_of_no_pen (hpen : sys.isPenConnected = false) {v : Option String}
    (hv : sys.peakRefreshRate = v ∨
      (v = some "Infinity" ∧ sys.peakRefreshRate = some rate ∧ was = true))
    (hok : ¬ (was = true ∧ sys.peakRefreshRate = some rate ∧ v = some rate ∧ rate ≠ "Infinity")) :
    (sys.overridePeakRefreshRateIfNeeded rate was).peakRefreshRate = v := by
  obtain ⟨-, hnew⟩ := Sys.override_of_no_pen rate was hpen
  by_cases hraise : was = true ∧ sys.peakRefreshRate = some rate
  · rw [if_pos hraise] at hnew
    rw [hnew.2]
    rcases hv with hsame | ⟨hmax, -⟩
    · -- the rate of the pen is "Infinity" itself
      by_contra hne
      apply hok
      refine ⟨hraise.1, hraise.2, hsame.symm.trans hraise.2, ?_⟩
      rintro rfl
      exact hne (hraise.2.symm.trans hsame)
    · exact hmax.symm
  · rw [if_neg hraise] at hnew
    rw [hnew.2.1]
    rcases hv with hsame | ⟨-, hrate, hwas⟩
    · exact hsame
    · exact absurd ⟨hwas, hrate⟩ hraise

end Override

/-- The devices change. -/
theorem Kept.inputDevices (h : Kept rate s) (devices : List (Option InputDevice)) :
    Kept rate ⟨Sys.post { s.sys with devices := devices },
      (Event.inputDevices devices).mark s.sys s.mark⟩ := by
  have hpeak : (Sys.post { s.sys with devices := devices }).peakRefreshRate =
      s.sys.peakRefreshRate := Sys.post_peakRefreshRate
  -- what was lowered stays so, and is not handled until the service looks
  have hcarry : ∀ mark : Mark, mark.before = s.mark.before →
      (({ s.sys with devices := devices } : Sys).isPenConnected = false →
        s.mark.handled = false ∨ s.sys.isPenConnected = true → mark.handled = false) →
      Kept rate ⟨Sys.post { s.sys with devices := devices }, mark⟩ := by
    intro mark hbefore hhandled v hv
    rw [hbefore] at hv
    rcases h v hv with hsame | hlow
    · exact .inl (hpeak.trans hsame)
    · refine .inr ⟨hlow.before, hpeak.trans hlow.now, ?_, ?_⟩
      · intro w hw
        rw [Sys.post_service] at hw
        exact hlow.known w hw
      · intro hno
        rw [Sys.isPenConnected_post] at hno
        apply hhandled hno
        cases hpen : s.sys.isPenConnected with
        | false => exact .inl (hlow.handled hpen)
        | true => exact .inr rfl
  cases hpen : s.sys.isPenConnected with
  | true =>
      rw [Event.mark, if_pos hpen]
      apply hcarry
      · rfl
      · intro hno _
        simp [hno]
  | false =>
      rw [Event.mark, hpen, if_neg (by simp)]
      split_ifs with hcomes
      · -- a pen comes: the value is the one to keep
        intro v hv
        cases hv
        exact .inl hpeak
      · apply hcarry
        · rfl
        · rintro - (hnot | hyes)
          · exact hnot
          · rw [hpen] at hyes
            cases hyes

/-- A callback is run. -/
theorem Kept.deliver {sys : Sys} (h : Kept rate s) (he : Harmless rate s .deliver)
    (hsys : Event.handle rate s.sys .deliver = some sys) :
    Kept rate ⟨sys, Event.deliver.mark s.sys s.mark⟩ := by
  obtain ⟨was, n, hservice, -, rfl⟩ := Sys.deliver_inv hsys
  cases hpen : s.sys.isPenConnected with
  | true => exact h.override_of_pen hpen rfl rfl
  | false =>
      have hnone : ({ s.sys with pending := n } : Sys).isPenConnected = false := hpen
      intro v hv
      left
      apply override_of_no_pen hnone
      · rcases h v hv with hsame | hlow
        · exact .inl hsame
        · exact .inr ⟨hlow.before, hlow.now, hlow.known was hservice⟩
      · rintro ⟨rfl, hnow, rfl, hne⟩
        exact he ⟨hpen, hservice, hnow, hv, hne⟩

/-- A service is started. -/
theorem Kept.create (hrate : rate ≠ "") (h : Kept rate s) (he : Harmless rate s .create) :
    Kept rate ⟨s.sys.onCreate rate, Event.create.mark s.sys s.mark⟩ := by
  rw [Sys.onCreate_eq hrate]
  cases hpen : s.sys.isPenConnected with
  | true => exact h.override_of_pen hpen rfl rfl
  | false =>
      have hnone : ({ s.sys with
          service := some false, pending := 0 } : Sys).isPenConnected = false := hpen
      intro v hv
      have hbefore : s.mark.before = some v := hv
      have hsame : s.sys.peakRefreshRate = v := by
        rcases he hpen with hno | hnow
        · rw [hbefore] at hno
          cases hno
        · rw [hbefore] at hnow
          exact (Option.some.inj hnow).symm
      left
      apply override_of_no_pen hnone (.inl hsame)
      rintro ⟨hwas, -⟩
      cases hwas

/-- **Every harmless step keeps the setting**, as it was or lowered. -/
theorem Kept.step (hrate : rate ≠ "") (h : Kept rate s) (he : Harmless rate s e)
    (hstep : step rate s e = some t) : Kept rate t := by
  rw [Pen.step, Option.map_eq_some_iff] at hstep
  obtain ⟨sys, hsys, rfl⟩ := hstep
  cases e with
  | inputDevices devices =>
      cases hsys
      exact h.inputDevices devices
  | write value =>
      intro v hv
      cases hv
  | deliver => exact h.deliver he hsys
  | create =>
      cases hsys
      exact h.create hrate he
  | stop =>
      cases hsys
      intro v hv
      rcases h v hv with hsame | hlow
      · exact .inl hsame
      · refine .inr ⟨hlow.before, hlow.now, ?_, hlow.handled⟩
        intro w hw
        cases hw

/-- **A lasting change**: without a pen, the service has looked and forgets
that there was one, and the setting is not what it was. -/
structure Changed (s : State) : Prop where
  noPen : s.sys.isPenConnected = false
  forgotten : s.sys.service = some false
  handled : s.mark.handled = true
  changed : ∃ v, s.mark.before = some v ∧ s.sys.peakRefreshRate ≠ v

/-- A service that has seen no pen, and sees none, changes nothing. -/
theorem override_of_forgotten (rate : String) {sys : Sys} (hpen : sys.isPenConnected = false) :
    let t := sys.overridePeakRefreshRateIfNeeded rate false
    t.isPenConnected = false ∧ t.service = some false ∧
      t.peakRefreshRate = sys.peakRefreshRate ∧ t.pending = sys.pending := by
  obtain ⟨hdevices, hnew⟩ := Sys.override_of_no_pen rate false hpen
  rw [if_neg (by simp)] at hnew
  refine ⟨?_, hnew⟩
  rw [Sys.isPenConnected, hdevices]
  exact hpen

/-- The callbacks that are left do not undo it. -/
theorem Changed.drain (h : Changed s) :
    ∃ h' t, Path (step rate) s h' t ∧ (∀ x ∈ h', x.2 = .deliver) ∧ t.sys.pending = 0 ∧
      Changed t := by
  obtain ⟨n, hn⟩ : ∃ n, s.sys.pending = n := ⟨_, rfl⟩
  induction n generalizing s with
  | zero => exact ⟨[], s, .nil, by simp, hn, h⟩
  | succ n ih =>
      obtain ⟨hpen, hservice, hhandled, v, hv, hne⟩ := h
      have hnone : ({ s.sys with
          service := some false, pending := n } : Sys).isPenConnected = false := hpen
      obtain ⟨hstill, hforgotten, hsame, hleft⟩ := override_of_forgotten rate hnone
      have hone : step rate s .deliver = some
          ⟨({ s.sys with
              service := some false, pending := n } : Sys).overridePeakRefreshRateIfNeeded
            rate false, Event.deliver.mark s.sys s.mark⟩ := by
        simp [Pen.step, Event.handle, hservice, hn]
      have hafter : Changed ⟨({ s.sys with
              service := some false, pending := n } : Sys).overridePeakRefreshRateIfNeeded
            rate false, Event.deliver.mark s.sys s.mark⟩ := by
        refine ⟨hstill, hforgotten, ?_, v, hv, ?_⟩
        · simp [Event.mark, hhandled]
        · show Sys.peakRefreshRate _ ≠ v
          rw [hsame]
          exact hne
      obtain ⟨h', t, hp, hall, hzero, ht⟩ := ih hafter hleft
      exact ⟨_, t, .cons hone hp, List.forall_mem_cons.mpr ⟨rfl, hall⟩, hzero, ht⟩

end State

end OplusHardware.Pen
