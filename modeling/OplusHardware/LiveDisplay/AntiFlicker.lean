import Mathlib.Logic.Function.Basic
import OplusHardware.Base.Binder
import OplusHardware.Base.Path
import OplusHardware.Base.Program

/-!
# LiveDisplay — AntiFlicker

`class AntiFlicker`: three features of the panel driver stand for one
switch. `getEnabled` reads the first that can be read, `setEnabled` writes
the first that can be written, and nothing makes these the same one.
-/

namespace OplusHardware.LiveDisplay.AntiFlicker

open OplusHardware.Base

/-! ## The driver -/

/-- The features behind the `PANEL_IOCTL_GET_*` and `PANEL_IOCTL_SET_*`
requests of the service. -/
inductive Feature where
  | pwmPulse
  | pwmTurbo
  | dimlayerBlEn
  deriving DecidableEq, Repr

/-- What the driver stores. -/
abbrev Panel := Feature → UInt32

inductive PanelOp where
  | get (f : Feature)
  | set (f : Feature) (value : UInt32)

/-- A `get` that fails leaves `value` as it was, a `set` says whether it
worked. -/
abbrev PanelOp.Res : PanelOp → Type
  | .get _ => Option UInt32
  | .set _ _ => Bool

/-- Which ioctls of one call of the service work. No call makes the same
ioctl twice, so this is every pattern of failures. -/
structure Ioctls where
  get : Feature → Bool
  set : Feature → Bool

def serve (io : Ioctls) (s : Panel) : (op : PanelOp) → Panel × op.Res
  | .get f => (s, if io.get f then some (s f) else none)
  | .set f value => if io.set f then (Function.update s f value, true) else (s, false)

/-! ## The calls -/

/-- A call that returns in `α`, or with a status that is not ok. -/
abbrev PanelProg := Prog PanelOp PanelOp.Res AStatus

/-- `ioctl(get a) != 0 && ioctl(get b) != 0 && …`, and what is left in
`value`. -/
def ioctlGet : List Feature → PanelProg UInt32
  | [] => .throw .exUnsupportedOperation
  | f :: fs => do
      match ← .perform (PanelOp.get f) with
      | some value => return value
      | none => ioctlGet fs

/-- `ioctl(set a) != 0 && ioctl(set b) != 0 && …`. -/
def ioctlSet (value : UInt32) : List Feature → PanelProg Unit
  | [] => .throw .exUnsupportedOperation
  | f :: fs => do
      match ← .perform (PanelOp.set f value) with
      | true => return ()
      | false => ioctlSet value fs

/-- `AntiFlicker::getEnabled`. -/
def getEnabled : PanelProg Bool := do
  let value ← ioctlGet [.pwmPulse, .pwmTurbo, .dimlayerBlEn]
  return decide (0 < value)

/-- `AntiFlicker::setEnabled`. -/
def setEnabled (enabled : Bool) : PanelProg Unit := do
  let isEnabled ← getEnabled
  match isEnabled != enabled with
  | true => ioctlSet enabled.toUInt32 [.pwmPulse, .pwmTurbo, .dimlayerBlEn]
  | false => return ()

/-! ## Which feature a call settles on -/

/-- The first feature, in the order of the code, that `works`. -/
def settlesOn (works : Feature → Bool) : Option Feature :=
  [Feature.pwmPulse, .pwmTurbo, .dimlayerBlEn].find? works

section Runs

variable {io : Ioctls} {s : Panel} {enabled : Bool}

theorem run_ioctlGet (fs : List Feature) :
    (ioctlGet fs).run (serve io) s =
      (s, ((fs.find? io.get).map s).elim (.error .exUnsupportedOperation) .ok) := by
  induction fs with
  | nil => rfl
  | cons f fs ih =>
      rw [ioctlGet, Prog.run_perform_bind, serve]
      cases hf : io.get f with
      | true => simp [hf]
      | false => simpa [hf] using ih

theorem run_ioctlSet (value : UInt32) (fs : List Feature) :
    (ioctlSet value fs).run (serve io) s =
      match fs.find? io.set with
      | some f => (Function.update s f value, .ok ())
      | none => (s, .error .exUnsupportedOperation) := by
  induction fs with
  | nil => rfl
  | cons f fs ih =>
      rw [ioctlSet, Prog.run_perform_bind, serve]
      cases hf : io.set f with
      | true => simp [hf]
      | false => simpa [hf] using ih

/-- A `getEnabled` changes nothing, and tells whether the feature it
settles on is above zero. -/
theorem run_getEnabled :
    getEnabled.run (serve io) s =
      (s, ((settlesOn io.get).map s).elim (.error .exUnsupportedOperation)
        fun value => .ok (decide (0 < value))) := by
  rw [getEnabled, Prog.run_bind, run_ioctlGet, settlesOn]
  cases [Feature.pwmPulse, .pwmTurbo, .dimlayerBlEn].find? io.get <;> rfl

/-- A `setEnabled` leaves a feature that reads as asked, and writes the one
its own chain settles on otherwise. -/
theorem run_setEnabled :
    (setEnabled enabled).run (serve io) s =
      match settlesOn io.get with
      | none => (s, .error .exUnsupportedOperation)
      | some g =>
          if decide (0 < s g) = enabled then (s, .ok ())
          else match settlesOn io.set with
            | none => (s, .error .exUnsupportedOperation)
            | some f => (Function.update s f enabled.toUInt32, .ok ()) := by
  rw [setEnabled, Prog.run_bind, run_getEnabled]
  cases settlesOn io.get with
  | none => rfl
  | some g =>
      by_cases hg : decide (0 < s g) = enabled
      · simp [hg]
      · have hne : (decide (0 < s g) != enabled) = true := by simpa using hg
        simp only [Option.map_some, Option.elim_some, hne, if_neg hg]
        rw [run_ioctlSet, settlesOn]
        cases [Feature.pwmPulse, .pwmTurbo, .dimlayerBlEn].find? io.set <;> rfl

/-! ## One `setEnabled` and the `getEnabled` after it -/

/-- A `setEnabled` that answers an error has changed nothing. -/
theorem setEnabled_of_error {e : AStatus}
    (he : ((setEnabled enabled).run (serve io) s).2 = .error e) :
    ((setEnabled enabled).run (serve io) s).1 = s := by
  rw [run_setEnabled] at he ⊢
  revert he
  cases settlesOn io.get with
  | none => exact fun _ => rfl
  | some g =>
      by_cases hg : decide (0 < s g) = enabled
      · simp [hg]
      · cases settlesOn io.set with
        | none => simp [hg]
        | some f => simp [hg]

theorem decide_toUInt32 (b : Bool) : decide (0 < b.toUInt32) = b := by
  cases b <;> rfl

/-- **When the two chains agree.** The feature the read settles on stands
at `enabled` already; or `setEnabled` finds the other value, and the
feature it writes is the one the read settles on. -/
def Agree (enabled : Bool) (s : Panel) (io io' : Ioctls) : Prop :=
  ∀ f g, settlesOn io'.get = some f → settlesOn io.get = some g →
    decide (0 < s f) = enabled ∨
      (decide (0 < s g) ≠ enabled ∧ ∀ w, settlesOn io.set = some w → w = f)

/-- A driver that reads and writes by the same feature, in both calls. -/
theorem agree_of_settlesOn_eq {io' : Ioctls} (hget : settlesOn io'.get = settlesOn io.get)
    (hset : settlesOn io.set = settlesOn io.get) : Agree enabled s io io' := by
  intro f g hf hg
  have hfg : f = g := by
    rw [hget, hg] at hf
    exact (Option.some.inj hf).symm
  subst hfg
  by_cases hs : decide (0 < s f) = enabled
  · exact .inl hs
  · refine .inr ⟨hs, ?_⟩
    intro w hw
    rw [hset, hg] at hw
    exact (Option.some.inj hw).symm

/-- A read right after an accepted write yields what was asked for exactly
when the chains agree. -/
theorem reflects_iff {io' : Ioctls} :
    (∀ v, ((setEnabled enabled).run (serve io) s).2 = .ok () →
      (getEnabled.run (serve io') ((setEnabled enabled).run (serve io) s).1).2 = .ok v →
      v = enabled) ↔ Agree enabled s io io' := by
  rw [run_getEnabled, run_setEnabled, Agree]
  cases settlesOn io'.get with
  | none => simp
  | some f =>
      cases settlesOn io.get with
      | none => simp
      | some g =>
          by_cases hg : decide (0 < s g) = enabled
          · -- nothing is written
            simp [hg]
          · cases settlesOn io.set with
            | none => simp [hg]
            | some w =>
                simp only [if_neg hg, Option.map_some, Option.elim_some, Function.update_apply]
                by_cases hw : f = w
                · simp [hw, hg, decide_toUInt32]
                · have hne : w ≠ f := fun h => hw h.symm
                  simp [hw, hne]

end Runs

/-! ## Whole runs -/

inductive Request where
  | setEnabled (enabled : Bool)
  | getEnabled
  deriving DecidableEq, Repr

/-- A call of a client, with the ioctls that work during it. -/
structure Call where
  request : Request
  io : Ioctls

/-- The service takes one call after another. -/
def step (s : Panel) (c : Call) : Option Panel :=
  match c.request with
  | .setEnabled enabled => some ((setEnabled enabled).run (serve c.io) s).1
  | .getEnabled => some (getEnabled.run (serve c.io) s).1

/-- **What a run should show**: every read that comes right after a write
yields what was written, where both answer ok, and a write that answers an
error has changed nothing. -/
structure Reflects (h : List (Panel × Call)) : Prop where
  readBack : ∀ pre s enabled io t io' post v,
    h = pre ++ (s, ⟨.setEnabled enabled, io⟩) :: (t, ⟨.getEnabled, io'⟩) :: post →
    ((setEnabled enabled).run (serve io) s).2 = .ok () →
    (getEnabled.run (serve io') t).2 = .ok v → v = enabled
  failed : ∀ s enabled io e, (s, ⟨.setEnabled enabled, io⟩) ∈ h →
    ((setEnabled enabled).run (serve io) s).2 = .error e →
    step s ⟨.setEnabled enabled, io⟩ = some s

/-- **When `getEnabled` reflects `setEnabled`.** For every driver, every
pattern of failing ioctls and every run of calls: the run reflects what is
set if and only if the chains of each write and of the read right after it
agree. -/
theorem get_reflects_set_iff (p q : Panel) (h : List (Panel × Call)) (hp : Path step p h q) :
    Reflects h ↔
      ∀ pre s enabled io t io' post,
        h = pre ++ (s, ⟨.setEnabled enabled, io⟩) :: (t, ⟨.getEnabled, io'⟩) :: post →
        Agree enabled s io io' := by
  -- the read starts in the state the write leaves
  have hnext : ∀ pre s enabled io t io' post,
      h = pre ++ (s, ⟨.setEnabled enabled, io⟩) :: (t, ⟨.getEnabled, io'⟩) :: post →
      t = ((setEnabled enabled).run (serve io) s).1 := by
    intro pre s enabled io t io' post heq
    obtain ⟨-, u, hu, hq⟩ := (heq ▸ hp).at_step
    cases hu
    exact hq.cons_inv.1
  constructor
  · intro hr pre s enabled io t io' post heq
    rw [← reflects_iff]
    intro v hset hget
    apply hr.readBack pre s enabled io t io' post v heq hset
    rw [hnext pre s enabled io t io' post heq]
    exact hget
  · intro hagree
    constructor
    · intro pre s enabled io t io' post v heq hset hget
      rw [hnext pre s enabled io t io' post heq] at hget
      exact reflects_iff.mpr (hagree pre s enabled io t io' post heq) v hset hget
    · intro s enabled io e _ he
      show some _ = some s
      rw [setEnabled_of_error he]

/-- A panel without anti-flicker. -/
def dark : Panel := fun _ => 0

/-- A driver that lets the first feature be read, and only the second be
written. -/
def splitDriver : Ioctls where
  get := fun _ => true
  set := fun f => f = .pwmTurbo

/-- A driver without the first feature, which otherwise works. -/
def noPulse : Ioctls := ⟨fun f => f ≠ .pwmPulse, fun f => f ≠ .pwmPulse⟩

/-- No ioctl works. -/
def deadDriver : Ioctls := ⟨fun _ => false, fun _ => false⟩

/-- A write and a read that fall back to the second feature, and a write
that fails. -/
def fallBack : List Call :=
  [⟨.setEnabled true, noPulse⟩, ⟨.getEnabled, noPulse⟩, ⟨.setEnabled false, deadDriver⟩,
    ⟨.getEnabled, noPulse⟩]

theorem get_reflects_set_iff_fall_back :
    ∃ r ∈ follow step dark fallBack, r.2 .pwmTurbo = 1 ∧ Reflects r.1 := by
  have hrun : ∃ r ∈ follow step dark fallBack, r.2 .pwmTurbo = 1 ∧
      ∀ x ∈ r.1, x.2.io = noPulse ∨ (x.2.io = deadDriver ∧ x.2.request ≠ .getEnabled) :=
    ⟨_, rfl, by rfl, by simp⟩
  obtain ⟨r, hr, hturbo, hio⟩ := hrun
  refine ⟨r, hr, hturbo, (get_reflects_set_iff dark r.2 r.1 (path_of_follow hr)).mpr ?_⟩
  intro pre s enabled io t io' post heq
  have hread : io' = noPulse := by
    simpa using hio (t, ⟨.getEnabled, io'⟩) (by simp [heq])
  rw [hread]
  rcases hio (s, ⟨.setEnabled enabled, io⟩) (by simp [heq]) with hwrite | ⟨hdead, -⟩
  · rw [show io = noPulse from hwrite]
    exact agree_of_settlesOn_eq rfl rfl
  · -- nothing can be read, so the write has failed
    rw [show io = deadDriver from hdead]
    intro f g _ hg
    cases hg

/-- **Read from one feature, written to another**: both calls answer ok,
and the switch reads as off after it was turned on. -/
theorem read_misses_write :
    ∃ r ∈ follow step dark [⟨.setEnabled true, splitDriver⟩, ⟨.getEnabled, splitDriver⟩],
      ¬ Reflects r.1 := by
  refine ⟨_, rfl, ?_⟩
  intro h
  have hv := h.readBack [] dark true splitDriver _ splitDriver [] false rfl rfl
    (by rw [run_getEnabled, run_setEnabled]; decide)
  cases hv

end OplusHardware.LiveDisplay.AntiFlicker
