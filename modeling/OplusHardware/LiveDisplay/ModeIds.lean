import OplusHardware.LiveDisplay.DisplayModes

/-!
# LiveDisplay — the mode ids

The two getters look their member up with `kModeMap.at`, which throws for
an id that is no key. `setDisplayMode` assigns keys only; the constructor
takes its default from the file as it is.
-/

namespace OplusHardware.LiveDisplay

open OplusHardware.Base

/-! ## Keys -/

theorem isKey_iff {id : Int32} : IsKey id ↔ 0 ≤ id.toInt ∧ id.toInt ≤ 3 := by
  constructor
  · intro h
    rw [IsKey, List.lookup_isSome_iff] at h
    obtain ⟨entry, hmem, hid⟩ := h
    have hall : ∀ e ∈ kModeMap, 0 ≤ e.1.toInt ∧ e.1.toInt ≤ 3 := by decide
    rw [eq_of_beq hid]
    exact hall entry hmem
  · rintro ⟨hlo, hhi⟩
    have hid : id = Int32.ofInt id.toInt := (Int32.ofInt_toInt id).symm
    generalize id.toInt = n at hid hlo hhi
    subst hid
    interval_cases n <;> decide

theorem kModeMapAt_isOk {id : Int32} : (kModeMapAt id).isOk = true ↔ IsKey id := by
  rw [kModeMapAt, IsKey]
  cases kModeMap.lookup id <;> simp [Except.isOk, Except.toBool]

/-- The file names a mode, or no number: whatever number it starts with is
a key. -/
def NamesMode (file : Option (List Char)) : Prop :=
  (file.bind (strtol 10)).all (fun r => decide (0 ≤ r.1 ∧ r.1 ≤ 3)) = true

instance (file : Option (List Char)) : Decidable (NamesMode file) :=
  inferInstanceAs (Decidable (_ = _))

/-- **The constructor's default is a key** exactly for such a file. -/
theorem isKey_readDefault_iff (file : Option (List Char)) :
    IsKey (readDefault file) ↔ NamesMode file := by
  cases file with
  | none => simp [readDefault, NamesMode, isKey_iff]
  | some text =>
      rw [readDefault, NamesMode, Option.bind_some]
      cases hnum : strtol 10 text with
      | none =>
          have hzero : extractInt32 0 text = 0 := (extractInt32_none hnum).elim id id
          simp [hzero, isKey_iff]
      | some r =>
          obtain ⟨v, rest⟩ := r
          rw [extractInt32_some hnum, isKey_iff, toInt_saturateInt32, Option.all_some,
            decide_eq_true_eq]
          omega

namespace Hal

variable {s : Hal}

/-! ## What keeps the ids valid -/

/-- **Both members are keys of `kModeMap`.** -/
def IdsValid (s : Hal) : Prop := IsKey s.mCurrentModeId ∧ IsKey s.mDefaultModeId

instance (s : Hal) : Decidable s.IdsValid := inferInstanceAs (Decidable (_ ∧ _))

/-- Neither getter throws. -/
def GettersReturn (s : Hal) : Prop :=
  s.getCurrentDisplayMode.isOk = true ∧ s.getDefaultDisplayMode.isOk = true

theorem gettersReturn_iff : s.GettersReturn ↔ s.IdsValid := by
  rw [GettersReturn, IdsValid, ← kModeMapAt_isOk, ← kModeMapAt_isOk,
    getCurrentDisplayMode, getDefaultDisplayMode]
  cases kModeMapAt s.mCurrentModeId <;> cases kModeMapAt s.mDefaultModeId <;>
    simp [Except.isOk, Except.toBool, bind, Except.bind, pure, Except.pure]

/-- What the step assigns to one of the two members is a key. -/
def AssignsKey : Op → Prop
  | .assignCurrentModeId id => IsKey id
  | .assignDefaultModeId id => IsKey id
  | _ => True

theorem IdsValid.serve {op : Op} (h : s.IdsValid) (hop : AssignsKey op) (ok : Bool) :
    (s.serve op ok).1.IdsValid := by
  cases op with
  | assignCurrentModeId id => exact ⟨hop, h.2⟩
  | assignDefaultModeId id => exact ⟨h.1, hop⟩
  | insertDefaultFile id =>
      rw [Hal.serve]
      split_ifs <;> exact h
  | closeDefaultFile =>
      rw [Hal.serve]
      split <;> exact h
  | setSeed seedMode => cases ok <;> exact h
  | setActiveDisplayMode displayModeId => cases ok <;> exact h
  | setDefaultDisplayMode displayModeId => cases ok <;> exact h
  | openDefaultFile => cases ok <;> exact h
  | defaultFileFail => exact h
  | callOnDisplayModeSet => exact h

/-- **Every call keeps the ids valid**, at each of its steps. -/
theorem keeps_setDisplayMode (hs : s.IdsValid) (t : Hal) (modeID : Int32)
    (makeDefault : Bool) :
    (setDisplayMode t modeID makeDefault).Keeps Hal.serve IdsValid (fun _ _ => True) s := by
  cases hmode : kModeMap.lookup modeID with
  | none =>
      rw [setDisplayMode_of_none hmode]
      exact ⟨hs, trivial⟩
  | some info =>
      have hkey : IsKey modeID := by rw [IsKey, hmode]; rfl
      have hcalls : (setDisplayMode t modeID makeDefault).Calls AssignsKey := by
        apply (calls_setDisplayMode hmode t makeDefault).mono
        intro op hop
        cases op with
        | assignCurrentModeId id => exact hop ▸ hkey
        | assignDefaultModeId id => exact hop.2 ▸ hkey
        | _ => trivial
      exact hcalls.keeps (fun _ _ ok hs hop => hs.serve hop ok) hs

/-- The default the process works with is `d`. -/
def DefaultIs (d : Int32) (s : Hal) : Prop := s.mDefaultModeId = d

/-- The constructor's own call keeps the default. -/
theorem keeps_default {d : Int32} (hd : s.DefaultIs d) (t : Hal) (modeID : Int32) :
    (setDisplayMode t modeID false).Keeps Hal.serve (DefaultIs d) (fun _ _ => True) s := by
  cases hmode : kModeMap.lookup modeID with
  | none =>
      rw [setDisplayMode_of_none hmode]
      exact ⟨hd, trivial⟩
  | some info =>
      refine (calls_setDisplayMode hmode t false).keeps ?_ hd
      intro s op ok hs hop
      cases op with
      | assignDefaultModeId id => cases hop.1
      | openDefaultFile => cases hop
      | insertDefaultFile id => cases hop.1
      | closeDefaultFile => cases hop
      | setDefaultDisplayMode displayModeId => cases hop.1
      | setSeed seedMode => cases ok <;> exact hs
      | setActiveDisplayMode displayModeId => cases ok <;> exact hs
      | assignCurrentModeId id => exact hs
      | defaultFileFail => exact hs
      | callOnDisplayModeSet => exact hs

end Hal

namespace Service

variable {displayFdOpen : Bool} {panel : Panel} {file : Option (List Char)}
  {p q : Service} {h : List (Service × ServiceEvent)}

/-! ## Whole runs -/

/-- The constructor leaves the default it read. -/
theorem Constructed.mDefaultModeId_eq (hc : Constructed displayFdOpen panel file p) :
    p.store.mDefaultModeId = readDefault file := by
  obtain ⟨h, hp, -, hreq⟩ := hc
  have hboot : (boot displayFdOpen panel file).store.DefaultIs (readDefault file) := rfl
  have hkeep : p.Keeping Hal.serve (Hal.DefaultIs (readDefault file)) (fun _ _ => True) := by
    -- no request is taken up before the constructor is done
    refine Process.path_keeping (R := fun _ => False) (fun _ _ _ hr => hr.elim) hp
      (Hal.keeps_default hboot _ _) ?_
    intro x hx r he
    exact ProcessEvent.ne_request (hreq x hx) r he
  exact hkeep.inv

/-- After a constructor whose default is a key, the ids are valid
throughout. -/
theorem Constructed.always (hc : Constructed displayFdOpen panel file p)
    (hkey : IsKey (readDefault file)) (hp : Path step p h q) :
    (∀ x ∈ h, x.1.store.IdsValid) ∧ q.store.IdsValid := by
  obtain ⟨h0, hp0, -, -⟩ := hc
  have hbody : ∀ (s : Hal) (r : SetDisplayMode), s.IdsValid → True →
      (setDisplayMode s r.modeID r.makeDefault).Keeps Hal.serve Hal.IdsValid
        (fun _ _ => True) s :=
    fun s r hs _ => Hal.keeps_setDisplayMode hs s r.modeID r.makeDefault
  have hboot : (boot displayFdOpen panel file).store.IdsValid := ⟨rfl, hkey⟩
  have hdone : p.Keeping Hal.serve Hal.IdsValid (fun _ _ => True) :=
    Process.path_keeping hbody hp0 (Hal.keeps_setDisplayMode hboot _ _ _) fun _ _ _ _ => trivial
  exact Process.path_always hbody hp hdone fun _ _ _ _ => trivial

/-- **When the mode ids are valid.** For every content of the default-mode
file, every way the constructor ends and every run of `setDisplayMode`
calls after it, with any of their steps failing: both ids are keys of
`kModeMap` in every state, between and inside the calls, and so neither
getter throws, if and only if the file starts with no number or with one
that names a mode. -/
theorem ids_valid_iff (displayFdOpen : Bool) (panel : Panel) (file : Option (List Char))
    (p : Service) (hc : Constructed displayFdOpen panel file p)
    (h : List (Service × ServiceEvent)) (q : Service) (hp : Path step p h q) :
    (((∀ x ∈ h, x.1.store.IdsValid) ∧ q.store.IdsValid) ↔ NamesMode file) ∧
    (((∀ x ∈ h, x.1.store.GettersReturn) ∧ q.store.GettersReturn) ↔ NamesMode file) := by
  have hiff : ((∀ x ∈ h, x.1.store.IdsValid) ∧ q.store.IdsValid) ↔ NamesMode file := by
    rw [← isKey_readDefault_iff]
    constructor
    · rintro ⟨hall, hlast⟩
      have hfirst : p.store.IdsValid := by
        cases h with
        | nil => exact hp.eq_of_nil ▸ hlast
        | cons x h => exact hp.cons_inv.1 ▸ hall x (by simp)
      rw [← hc.mDefaultModeId_eq]
      exact hfirst.2
    · intro hkey
      exact hc.always hkey hp
  simp only [Hal.gettersReturn_iff]
  exact ⟨hiff, hiff⟩

/-- A device nothing was set on. -/
def freshPanel : Panel := ⟨none, none, none⟩

/-- The file says `2`; the panel refuses the seed of the constructor, and a
client then makes mode 3 the default. -/
theorem ids_valid_iff_cinematic :
    ∃ r ∈ follow step (boot true freshPanel (some ['2', '\n']))
        [.answer false, .answer true, .answer true],
      ∃ r' ∈ follow step r.2
          [.request ⟨3, true⟩, .answer true, .answer true, .answer true, .answer true,
            .answer true, .answer true, .answer true, .answer true, .answer true],
        (∀ x ∈ r'.1, x.1.store.IdsValid) ∧ r'.2.store.IdsValid := by
  have hrun : ∃ r ∈ follow step (boot true freshPanel (some ['2', '\n']))
      [.answer false, .answer true, .answer true],
      r.2.idle = true ∧ (∀ x ∈ r.1, x.2.isRequest = false) ∧
      ∃ r', follow step r.2
          [.request ⟨3, true⟩, .answer true, .answer true, .answer true, .answer true,
            .answer true, .answer true, .answer true, .answer true, .answer true] =
        some r' :=
    ⟨_, rfl, rfl, by simp [ProcessEvent.isRequest], _, rfl⟩
  obtain ⟨r, hr, hidle, hreq, r', hr'⟩ := hrun
  refine ⟨r, hr, r', hr', ?_⟩
  have hc : Constructed true freshPanel (some ['2', '\n']) r.2 :=
    ⟨r.1, path_of_follow hr, hidle, hreq⟩
  exact (ids_valid_iff true freshPanel (some ['2', '\n']) r.2 hc r'.1 r'.2
    (path_of_follow hr')).1.mpr (by decide)

/-- **A default that is no mode.** The file of another build says `7`: the
constructor's `setDisplayMode` refuses it, the member keeps it, and
`getDefaultDisplayMode` throws. -/
theorem foreign_default_throws :
    ∃ p, Constructed true freshPanel (some ['7']) p ∧ ¬ p.store.IdsValid ∧
      p.store.mDefaultModeId = 7 ∧
      p.store.getDefaultDisplayMode = .error .outOfRange := by
  refine ⟨boot true freshPanel (some ['7']), ⟨[], .nil, rfl, by simp⟩, ?_, rfl, rfl⟩
  decide

end Service

end OplusHardware.LiveDisplay
