import OplusHardware.Base.Observer
import OplusHardware.LiveDisplay.ModeIds

/-!
# LiveDisplay — the reported mode and the panel

`mCurrentModeId` is what the service reports; the seed and the mode of the
panel are what a user sees. `setDisplayMode` moves them with two device
calls whose results it drops.
-/

namespace OplusHardware.LiveDisplay

open OplusHardware.Base

/-! ## The device calls of a request -/

/-- How the device calls of the last request went: each of them worked, or
asked for what the panel had. -/
structure DeviceLog where
  seed : Bool
  mode : Bool
  deriving DecidableEq, Repr

def noteDevices (s : Hal) (op : Op) (ok : Bool) (g : DeviceLog) : DeviceLog :=
  match op with
  | .setSeed seedMode => { g with seed := ok || s.panel.seed == some seedMode }
  | .setActiveDisplayMode displayModeId =>
      { g with mode := ok || s.panel.mode == some displayModeId }
  | _ => g

def deviceObserver : Observer Hal Op Bool SetDisplayMode DeviceLog where
  take := fun _ _ g => g
  note := noteDevices

/-- The device calls of the last request of a run, from the constructor
on. -/
def deviceLog (h : List (Service × ServiceEvent)) : DeviceLog :=
  deviceObserver.after ⟨false, false⟩ h

abbrev serveDevices := deviceObserver.serve Hal.serve

/-- The panel shows the mode that the service reports. -/
def Hal.Shows (s : Hal) : Prop :=
  ∃ info, kModeMap.lookup s.mCurrentModeId = some info ∧
    s.panel.seed = some info.seedMode ∧ s.panel.mode = some info.displayModeId

/-! ## One call -/

section

variable {modeID : Int32} {info : ModeInfo} {makeDefault : Bool} {s : Hal × DeviceLog} {t : Hal}

/-- The device is open. -/
def Opened (s : Hal × DeviceLog) : Prop := s.1.displayFdOpen = true

/-- The mode `info` is reported, and the panel shows those parts of it that
the log says it does. -/
structure Moved (modeID : Int32) (info : ModeInfo) (s : Hal × DeviceLog) : Prop where
  opened : Opened s
  current : s.1.mCurrentModeId = modeID
  seed : s.1.panel.seed = some info.seedMode ↔ s.2.seed = true
  mode : s.1.panel.mode = some info.displayModeId ↔ s.2.mode = true

/-- What a call that returned with `a` leaves. -/
def Logged (s : Hal × DeviceLog) (a : AStatus) : Prop :=
  a = .ok → (s.1.Shows ↔ s.2.seed = true ∧ s.2.mode = true)

theorem Moved.logged (hmode : kModeMap.lookup modeID = some info) (h : Moved modeID info s)
    (a : AStatus) : Logged s a := by
  intro _
  rw [← h.seed, ← h.mode]
  constructor
  · rintro ⟨info', hlookup, hseed, hactive⟩
    rw [h.current, hmode] at hlookup
    cases hlookup
    exact ⟨hseed, hactive⟩
  · rintro ⟨hseed, hactive⟩
    exact ⟨info, by rw [h.current, hmode], hseed, hactive⟩

/-- **The part that moves the panel**: each device call leaves what it asks
for exactly if it works or the panel has it. -/
theorem keeps_applyMode (hs : Opened s) (ht : t.displayFdOpen = true) :
    (applyMode t modeID info).Keeps serveDevices Opened (fun s _ => Moved modeID info s) s := by
  obtain ⟨s, g⟩ := s
  rw [applyMode, ht]
  refine ⟨hs, fun seeded => ?_⟩
  have hseeded : Opened (serveDevices (s, g) (.setSeed info.seedMode) seeded).1 := by
    cases seeded <;> exact hs
  refine ⟨hseeded, fun active => ?_⟩
  cases seeded <;> cases active <;> refine ⟨hs, fun _ => ⟨hs, hs, rfl, ?_, ?_⟩⟩ <;>
    simp [Observer.serve, deviceObserver, noteDevices, Hal.serve]

/-- A step that neither sets the panel nor reports a mode. -/
def OffPanel : Op → Prop
  | .setSeed _ => False
  | .setActiveDisplayMode _ => False
  | .assignCurrentModeId _ => False
  | _ => True

theorem Moved.serve {op : Op} (h : Moved modeID info s) (hop : OffPanel op) (ok : Bool) :
    Moved modeID info (serveDevices s op ok).1 := by
  obtain ⟨s, g⟩ := s
  obtain ⟨hopen, hcurrent, hseed, hactive⟩ := h
  cases op with
  | setSeed seedMode => exact hop.elim
  | setActiveDisplayMode displayModeId => exact hop.elim
  | assignCurrentModeId id => exact hop.elim
  | openDefaultFile => cases ok <;> exact ⟨hopen, hcurrent, hseed, hactive⟩
  | insertDefaultFile id =>
      show Moved modeID info ((s.serve (.insertDefaultFile id) ok).1, g)
      rw [Hal.serve]
      split_ifs <;> exact ⟨hopen, hcurrent, hseed, hactive⟩
  | defaultFileFail => exact ⟨hopen, hcurrent, hseed, hactive⟩
  | setDefaultDisplayMode displayModeId =>
      cases ok <;> exact ⟨hopen, hcurrent, hseed, hactive⟩
  | assignDefaultModeId id => exact ⟨hopen, hcurrent, hseed, hactive⟩
  | closeDefaultFile =>
      show Moved modeID info ((s.serve .closeDefaultFile ok).1, g)
      rw [Hal.serve]
      split <;> exact ⟨hopen, hcurrent, hseed, hactive⟩
  | callOnDisplayModeSet => exact ⟨hopen, hcurrent, hseed, hactive⟩

/-- What comes after the device calls does not touch the panel. -/
theorem calls_offPanel (t : Hal) :
    ((if makeDefault then storeDefault modeID info else .ret ()) >>= fun _ => notify t).Calls
      OffPanel := by
  have hnotify : (notify t).Calls OffPanel := by
    rw [notify]
    cases t.onDisplayModeSet with
    | false => trivial
    | true => exact ⟨trivial, fun _ => trivial⟩
  cases makeDefault with
  | false => exact hnotify
  | true =>
      apply Prog.Calls.bind _ fun _ => hnotify
      refine ⟨trivial, fun _ => ⟨trivial, fun _ => ⟨trivial, fun (fail : Bool) => ?_⟩⟩⟩
      cases fail with
      | true => exact ⟨trivial, fun _ => trivial⟩
      | false => exact ⟨trivial, fun _ => ⟨trivial, fun _ => ⟨trivial, fun _ => trivial⟩⟩⟩

/-- **A call** that returns ok leaves a panel that shows the reported mode
exactly as far as its device calls went well. -/
theorem keeps_logged (hs : Opened s) (ht : t.displayFdOpen = true) :
    (setDisplayMode t modeID makeDefault).Keeps serveDevices Opened Logged s := by
  cases hmode : kModeMap.lookup modeID with
  | none =>
      rw [setDisplayMode_of_none hmode]
      refine ⟨hs, ?_⟩
      intro hok
      cases hok
  | some info =>
      rw [setDisplayMode_eq hmode]
      apply (keeps_applyMode hs ht).bind
      intro s _ _ hmoved
      have hkeep : Prog.Keeps serveDevices (Moved modeID info) (fun _ _ => True) s
          ((if makeDefault then storeDefault modeID info else .ret ()) >>= fun _ => notify t) :=
        (calls_offPanel t).keeps (fun _ _ ok h hop => h.serve hop ok) hmoved
      apply hkeep.mono
      · exact fun _ h => h.opened
      · exact fun _ a h _ => h.logged hmode a

/-- A call for a mode of the map answers ok. -/
theorem keeps_ok (hmode : kModeMap.lookup modeID = some info) (s : Hal) :
    (setDisplayMode t modeID makeDefault).Keeps Hal.serve (fun _ => True)
      (fun _ a => a = .ok) s := by
  have hany : ∀ {α : Type} {x : HalProg α} {s : Hal}, x.Calls (MayCall modeID info makeDefault) →
      x.Keeps Hal.serve (fun _ => True) (fun _ _ => True) s :=
    fun hx => hx.keeps (fun _ _ _ _ _ => trivial) trivial
  rw [setDisplayMode_eq hmode]
  apply (hany (calls_applyMode t)).bind
  intro s _ _ _
  have hnotify : ∀ s : Hal,
      (notify t).Keeps Hal.serve (fun _ => True) (fun _ a => a = .ok) s := by
    intro s
    rw [notify]
    cases t.onDisplayModeSet with
    | false => exact ⟨trivial, rfl⟩
    | true => exact ⟨trivial, fun _ => ⟨trivial, rfl⟩⟩
  cases makeDefault with
  | false => exact hnotify s
  | true => exact (hany (calls_storeDefault modeID info)).bind fun s _ _ _ => hnotify s

end

namespace Service

variable {panel : Panel} {file : Option (List Char)} {q u x : Service} {r : SetDisplayMode}
  {h post : List (Service × ServiceEvent)}

/-! ## Runs -/

/-- **The log accounts for the panel** at the end of every call that
answers ok. -/
theorem path_logged (hp : Path step (boot true panel file) h q) :
    deviceObserver.Keeping Hal.serve Opened Logged (deviceLog h) q :=
  Observer.path_keeping (R := fun _ => True)
    (fun _ _ _ _ hs _ _ => keeps_logged hs hs) hp (keeps_logged rfl rfl) fun _ _ _ _ => trivial

/-- A call that is not ok has changed nothing. -/
theorem refused_unchanged (hu : step x (.request r) = some u) (hp : Path step u post q)
    (hpost : ∀ y ∈ post, y.2.isRequest = false) {a : AStatus} (hq : q.prog = .ret a)
    (ha : a ≠ .ok) : q.store = x.store := by
  obtain ⟨-, rfl⟩ := Process.request_inv hu
  cases hmode : kModeMap.lookup r.modeID with
  | none =>
      rw [setDisplayMode_of_none hmode] at hp
      cases post with
      | nil => rw [hp.eq_of_nil]
      | cons y post =>
          -- an idle process does nothing but take up a request
          exfalso
          obtain ⟨hy, v, hv, -⟩ := hp.cons_inv
          obtain ⟨y, e⟩ := y
          cases e with
          | request r' => cases hpost (y, .request r') (by simp)
          | answer o => cases hv
  | some info =>
      exfalso
      have hkeep : q.Keeping Hal.serve (fun _ => True) (fun _ a => a = .ok) := by
        apply Process.path_keeping (R := fun _ => False) (fun _ _ _ hr => hr.elim) hp
          (keeps_ok hmode x.store)
        intro y hy r' he
        exact ProcessEvent.ne_request (hpost y hy) r' he
      rw [Process.Keeping, hq] at hkeep
      exact ha hkeep.2

/-- **The report is honest** at the end of a run: after a call that
answers ok the panel shows the mode that is reported, and a call that
answers anything else has changed neither. -/
structure Honest (h : List (Service × ServiceEvent)) (q : Service) : Prop where
  applied : q.prog = .ret .ok → q.store.Shows
  refused : ∀ pre x r post, h = pre ++ (x, .request r) :: post →
    (∀ y ∈ post, y.2.isRequest = false) → ∀ a, q.prog = .ret a → a ≠ .ok →
    q.store.mCurrentModeId = x.store.mCurrentModeId ∧ q.store.panel = x.store.panel

/-- **When the report is honest.** For every panel, every content of the
file, every run of calls from the constructor's on and every pattern of
failures, wherever the run ends: the report is honest if and only if, where
the last call answers ok, each of its two device calls worked or asked for
what the panel had. -/
theorem report_honest_iff (panel : Panel) (file : Option (List Char))
    (h : List (Service × ServiceEvent)) (q : Service)
    (hp : Path step (boot true panel file) h q) :
    Honest h q ↔
      (q.prog = .ret .ok → (deviceLog h).seed = true ∧ (deviceLog h).mode = true) := by
  have hlogged : q.prog = .ret .ok →
      (q.store.Shows ↔ (deviceLog h).seed = true ∧ (deviceLog h).mode = true) := by
    intro hq
    have hkeep := path_logged hp
    rw [Observer.Keeping, hq] at hkeep
    exact hkeep.2 rfl
  constructor
  · intro hh hq
    exact (hlogged hq).mp (hh.applied hq)
  · intro hlog
    constructor
    · intro hq
      exact (hlogged hq).mpr (hlog hq)
    · rintro pre x r post rfl hpost a hq ha
      obtain ⟨-, u, hu, hp⟩ := hp.at_step
      have hsame := refused_unchanged hu hp hpost hq ha
      rw [hsame]
      exact ⟨rfl, rfl⟩

/-- The file says `2`, which the constructor applies. A client asks for
mode 1; the seed fails, but the panel has it from mode 2. -/
def naturalAfterCinematic : List ServiceEvent :=
  [.answer true, .answer true, .answer true, .request ⟨1, false⟩, .answer false, .answer true,
    .answer true]

/-- And then for a mode there is not. -/
def refusedAfterNatural : List ServiceEvent := naturalAfterCinematic ++ [.request ⟨7, false⟩]

theorem report_honest_iff_natural :
    (∃ r ∈ follow step (boot true freshPanel (some ['2'])) naturalAfterCinematic,
      r.2.prog = .ret .ok ∧ r.2.store.mCurrentModeId = 1 ∧ Honest r.1 r.2) ∧
    ∃ r ∈ follow step (boot true freshPanel (some ['2'])) refusedAfterNatural,
      r.2.prog = .ret .exUnsupportedOperation ∧ Honest r.1 r.2 := by
  constructor
  · have hrun : ∃ r ∈ follow step (boot true freshPanel (some ['2'])) naturalAfterCinematic,
        r.2.prog = .ret .ok ∧ r.2.store.mCurrentModeId = 1 ∧ deviceLog r.1 = ⟨true, true⟩ :=
      ⟨_, rfl, rfl, rfl, by decide⟩
    obtain ⟨r, hr, hok, hone, hlog⟩ := hrun
    refine ⟨r, hr, hok, hone, ?_⟩
    rw [report_honest_iff freshPanel (some ['2']) r.1 r.2 (path_of_follow hr), hlog]
    exact fun _ => ⟨rfl, rfl⟩
  · have hrun : ∃ r ∈ follow step (boot true freshPanel (some ['2'])) refusedAfterNatural,
        r.2.prog = .ret .exUnsupportedOperation := ⟨_, rfl, rfl⟩
    obtain ⟨r, hr, hrefused⟩ := hrun
    refine ⟨r, hr, hrefused, ?_⟩
    rw [report_honest_iff freshPanel (some ['2']) r.1 r.2 (path_of_follow hr), hrefused]
    intro hok
    cases hok

/-- **A seed that was refused**: the call answers ok and reports mode 1,
which the panel does not show. -/
theorem refused_seed_reported :
    ∃ r ∈ follow step (boot true freshPanel (some ['1']))
        [.answer false, .answer true, .answer true],
      r.2.prog = .ret .ok ∧ r.2.store.mCurrentModeId = 1 ∧ ¬ Honest r.1 r.2 := by
  refine ⟨_, rfl, rfl, rfl, ?_⟩
  intro hh
  obtain ⟨info, hlookup, hseed, -⟩ := hh.applied rfl
  cases hlookup
  cases hseed

end Service

end OplusHardware.LiveDisplay
