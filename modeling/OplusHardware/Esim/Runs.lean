import OplusHardware.Esim.Controller

/-!
# Esim — power and the last request over whole runs

On the SN220 path the power is cut at once and comes back only when some
listener gets through to the modem. And what a toggle writes is the
inverse of the state it reads, at a time when earlier listeners may still
be waiting to write theirs.
-/

namespace OplusHardware.Esim

open OplusHardware.Base

namespace EsimController

variable {s t : EsimController} {a : Action} {h : List (EsimController × Action)}
  {m : Modem} {v : Int}

/-- The power of the modem, where there is a modem. -/
def uimPower (s : EsimController) : Option Int := s.oplusEsimService.map (·.uimPower)

/-! ## Power -/

/-- The step cuts the power and leaves it cut. -/
def cuts (x : EsimController × Action) : Bool :=
  match x.2 with
  | .toggle state _ => x.1.hasSN220Chipset && state ≠ x.1.currentGpioState
  | .connected _ _ => false

/-- The step makes the call `setUimPower(1)`: a listener that gets through,
or a toggle on the direct path. -/
def restores (x : EsimController × Action) : Bool :=
  match x.2 with
  | .toggle state _ => !x.1.hasSN220Chipset && state ≠ x.1.currentGpioState
  | .connected _ c => c.succeeds

/-- **The power after one step**: off after a cut, on after a restore,
unchanged otherwise. -/
theorem uimPower_step (hm : s.oplusEsimService = some m) (hs : step s a = some t) :
    ∃ m', t.oplusEsimService = some m' ∧
      m'.uimPower =
        if cuts (s, a) then 0 else if restores (s, a) then 1 else m.uimPower := by
  cases step_cases hs with
  | same h => exact ⟨m, hm, by simp [cuts, restores, h]⟩
  | direct h hc =>
      refine ⟨((m.setUimPower 0).setEsimGpio (inverse s.currentGpioState)).setUimPower 1, ?_, ?_⟩
      · simp [setUimPower, setEsimGpio, hm]
      · simp [cuts, restores, h, hc]
  | lost h hc hs =>
      refine ⟨m.setUimPower 0, ?_, ?_⟩
      · simp [setUimPower, hm]
      · simp [cuts, h, hc]
  | listen h hc =>
      refine ⟨m.setUimPower 0, ?_, ?_⟩
      · simp [setUimPower, hm]
      · simp [cuts, h, hc]
  | @switched i c state hi hc =>
      refine ⟨(m.setEsimGpio state).setUimPower 1, ?_, ?_⟩
      · simp [setUimPower, setEsimGpio, hm]
      · simp [cuts, restores, hc]
  | failed hi hc => exact ⟨m, hm, by simp [cuts, restores, hc]⟩

/-- Every cut is followed by a restore. -/
def Restored (h : List (EsimController × Action)) : Prop :=
  ∀ pre x post, h = pre ++ x :: post → cuts x = true → ∃ y ∈ post, restores y = true

theorem restored_snoc {x : EsimController × Action} :
    Restored (h ++ [x]) ↔ cuts x = false ∧ (restores x = true ∨ Restored h) := by
  constructor
  · intro hr
    have hx : cuts x = false := by
      apply eq_false_of_ne_true
      intro hcut
      obtain ⟨y, hy, -⟩ := hr h x [] rfl hcut
      cases hy
    refine ⟨hx, ?_⟩
    by_cases hres : restores x = true
    · exact .inl hres
    · refine .inr fun pre y post heq hcut => ?_
      obtain ⟨z, hz, hzr⟩ := hr pre y (post ++ [x]) (by simp [heq]) hcut
      rcases List.mem_append.mp hz with hz | hz
      · exact ⟨z, hz, hzr⟩
      · rw [List.mem_singleton.mp hz] at hzr
        exact absurd hzr hres
  · rintro ⟨hx, hres⟩ pre y post heq hcut
    rcases List.eq_nil_or_concat post with rfl | ⟨post, z, rfl⟩
    · -- the cut cannot be the last step
      obtain ⟨-, hyx⟩ := List.append_inj' heq rfl
      rw [← (List.cons.inj hyx).1, hx] at hcut
      cases hcut
    · rw [List.concat_eq_append, ← List.cons_append, ← List.append_assoc] at heq
      obtain ⟨hh, hz⟩ := List.append_inj' heq rfl
      have hzx : x = z := (List.cons.inj hz).1
      rcases hres with hres | hres
      · exact ⟨z, by simp, by rw [← hzx]; exact hres⟩
      · obtain ⟨w, hw, hwr⟩ := hres pre y post hh hcut
        exact ⟨w, by simp [hw], hwr⟩

/-- **Power is restored exactly by the listeners that get through.** In
every run on either path, from every initial state of the gpio and with
every outcome of the services, the power is on if and only if every step
that cut it is followed by one that restores it: on the SN220 path, by an
`onConnected` that finds `seService` assigned and in which nothing throws
before the modem is switched. -/
theorem power_restored_iff (hasSN220Chipset : Bool) (gpio : Int)
    (h : List (EsimController × Action)) (t : EsimController)
    (hp : Path step (construct hasSN220Chipset gpio) h t) :
    t.uimPower = some 1 ↔
      ∀ pre x post, h = pre ++ x :: post → cuts x = true →
        ∃ y ∈ post, restores y = true := by
  have hinv : ∃ m, t.oplusEsimService = some m ∧ (m.uimPower = 1 ↔ Restored h) := by
    refine hp.history_inv
      (fun h s => ∃ m, s.oplusEsimService = some m ∧ (m.uimPower = 1 ↔ Restored h))
      (fun _ _ => True) ?_ ?_ (fun _ _ => trivial)
    · rintro h s a u ⟨m, hm, hiff⟩ - hs
      obtain ⟨m', hm', hpow⟩ := uimPower_step hm hs
      refine ⟨m', hm', ?_⟩
      rw [restored_snoc, hpow]
      cases hcut : cuts (s, a) with
      | true => simp
      | false =>
          cases hres : restores (s, a) with
          | true => simp
          | false => simpa using hiff
    · refine ⟨⟨gpio, 1⟩, rfl, ?_⟩
      simp [Restored]
  obtain ⟨m, hm, hiff⟩ := hinv
  rw [uimPower, hm]
  show some m.uimPower = some 1 ↔ Restored h
  rw [Option.some.injEq]
  exact hiff

/-- A service whose calls all succeed. -/
def connection : Connection := ⟨some true, true, true⟩

/-- On an SN220 device the constructor of the service throws, a second
toggle finds the service. -/
def throwsOnce : List Action :=
  [.toggle 1 .throws, .toggle 1 .created, .connected 0 connection]

theorem power_restored_iff_second_toggle :
    ∃ r ∈ follow step (construct true 0) throwsOnce, r.2.uimPower = some 1 := by
  have hrun : ∃ r ∈ follow step (construct true 0) throwsOnce,
      ∃ x y z, r.1 = [x, y, z] ∧ cuts z = false ∧ restores z = true := by
    refine ⟨_, rfl, _, _, _, rfl, ?_, ?_⟩
    · decide
    · decide
  obtain ⟨r, hr, x, y, z, heq, hcut, hres⟩ := hrun
  refine ⟨r, hr, (power_restored_iff true 0 r.1 r.2 (path_of_follow hr)).mpr ?_⟩
  have hlast : Restored ([x, y] ++ [z]) := restored_snoc.mpr ⟨hcut, .inl hres⟩
  rw [heq]
  exact hlast

/-- A service that is not created, or whose `onConnected` finds no service
or throws. -/
def fails : Action → Bool
  | .toggle _ start => start ≠ .created
  | .connected _ c => !c.succeeds

/-- Without failures the power is off only while a listener waits. -/
theorem power_on_or_waiting {hasSN220Chipset : Bool} {gpio : Int}
    (hp : Path step (construct hasSN220Chipset gpio) h t)
    (hok : ∀ x ∈ h, fails x.2 = false) : t.listeners ≠ [] ∨ t.uimPower = some 1 := by
  have hinv : ∃ m, t.oplusEsimService = some m ∧ (t.listeners ≠ [] ∨ m.uimPower = 1) := by
    refine hp.inv (fun s => ∃ m, s.oplusEsimService = some m ∧
      (s.listeners ≠ [] ∨ m.uimPower = 1)) (fun _ a => fails a = false) ?_ ?_ hok
    · rintro s a u ⟨m, hm, hor⟩ hf hs
      obtain ⟨m', hm', hpow⟩ := uimPower_step hm hs
      refine ⟨m', hm', ?_⟩
      rw [hpow]
      cases step_cases hs with
      | same h => simpa [cuts, restores, h] using hor
      | direct h hc => simp [cuts, restores, h, hc]
      | lost h hc hne => simp [fails, hne] at hf
      | listen h hc => exact .inl (by simp)
      | switched hi hc => simp [cuts, restores, hc]
      | failed hi hc => simp [fails, hc] at hf
    · exact ⟨⟨gpio, 1⟩, rfl, .inr rfl⟩
  obtain ⟨m, hm, hor⟩ := hinv
  rw [uimPower, hm]
  simpa using hor

/-- **Power left off.** The constructor of the service throws, no listener
is waiting, and the modem is without power. -/
theorem power_lost :
    ∃ r ∈ follow step (construct true 0) [.toggle 1 .throws],
      r.2.listeners = [] ∧ r.2.uimPower = some 0 := by
  decide

/-! ## The last request -/

/-- What is known of every state a controller with a modem reaches. -/
structure Reached (s : EsimController) : Prop where
  modem : ∃ m, s.oplusEsimService = some m
  direct : s.hasSN220Chipset = false → s.listeners = []

theorem currentGpioState_setEsimGpio (hm : ∃ m, s.oplusEsimService = some m) (v : Int) :
    ((s.setEsimGpio v).setUimPower 1).currentGpioState = v := by
  obtain ⟨m, hm⟩ := hm
  simp [currentGpioState, setEsimGpio, setUimPower, hm]

theorem Reached.step (hi : s.Reached) (hs : step s a = some t) : t.Reached := by
  obtain ⟨m, hm⟩ := hi.modem
  obtain ⟨m', hm', -⟩ := uimPower_step hm hs
  refine ⟨⟨m', hm'⟩, fun hc => ?_⟩
  cases step_cases hs with
  | same h => exact hi.direct hc
  | direct h hc' => exact hi.direct hc
  | lost h hc' hs => exact hi.direct hc
  | listen h hc' =>
      have hc : s.hasSN220Chipset = false := hc
      rw [hc'] at hc
      cases hc
  | @switched i c state hi' hc' =>
      rw [hi.direct hc] at hi'
      cases hi'
  | @failed i c state hi' hc' =>
      rw [hi.direct hc] at hi'
      cases hi'

/-- A listener is called back and gets through. -/
def getsThrough : Action → Bool
  | .toggle _ _ => false
  | .connected _ c => c.succeeds

/-- Every waiting listener writes `v`, and where none waits `v` is already
set. -/
def Agreed (v : Int) (s : EsimController) : Prop :=
  (∀ l ∈ s.listeners, l = v) ∧ (s.listeners = [] → s.currentGpioState = v)

theorem Agreed.step (ha : Agreed v s) (hi : s.Reached) (hok : getsThrough a = true)
    (hs : step s a = some t) : Agreed v t := by
  cases step_cases hs with
  | same h => cases hok
  | direct h hc => cases hok
  | lost h hc hs => cases hok
  | listen h hc => cases hok
  | @switched i c state hi' hc =>
      have hstate : state = v := ha.1 state (List.mem_of_getElem? hi')
      refine ⟨fun l hl => ha.1 l (List.mem_of_mem_eraseIdx hl), fun _ => ?_⟩
      rw [← hstate]
      exact currentGpioState_setEsimGpio (s := { s with listeners := _ }) hi.modem state
  | failed hi' hc => simp [getsThrough, hc] at hok

/-- Some order of the waiting call-backs ends with `v` set. -/
def EndsWith (v : Int) (s : EsimController) : Prop :=
  ∃ post t, Path step s post t ∧ (∀ y ∈ post, getsThrough y.2 = true) ∧
    t.listeners = [] ∧ t.currentGpioState = v

theorem EndsWith.cons (hok : getsThrough a = true) (hs : step s a = some t)
    (he : EndsWith v t) : EndsWith v s := by
  obtain ⟨post, u, hp, hpost, hempty, hgpio⟩ := he
  exact ⟨(s, a) :: post, u, .cons hs hp, List.forall_mem_cons.mpr ⟨hok, hpost⟩, hempty,
    hgpio⟩

theorem step_connected {i : Nat} (hv : s.listeners[i]? = some v) :
    step s (.connected i connection) =
      some (({ s with listeners := s.listeners.eraseIdx i }.setEsimGpio v).setUimPower 1) := by
  rw [EsimController.step, hv]
  rfl

/-- **Any waiting listener can be the last.** The induction is on the
number of waiting listeners: the second one is called back while `v` is the
first, the first one otherwise. -/
theorem endsWith_of_mem (hi : s.Reached) (hv : v ∈ s.listeners) : EndsWith v s := by
  generalize hl : s.listeners = ls at hv
  induction hn : ls.length generalizing s ls with
  | zero =>
      rw [List.length_eq_zero_iff.mp hn] at hv
      cases hv
  | succ n ih =>
      match ls, hl, hv, hn with
      | [l], hl, hv, _ =>
          rw [List.mem_singleton.mp hv]
          have hs := step_connected (s := s) (i := 0) (v := l) (by rw [hl]; rfl)
          refine ⟨_, _, .single hs, List.forall_mem_singleton.mpr rfl, ?_, ?_⟩
          · show s.listeners.eraseIdx 0 = []
            rw [hl]
            rfl
          · exact currentGpioState_setEsimGpio (s := { s with listeners := _ }) hi.modem l
      | l :: l' :: ls, hl, hv, hn =>
          have hn : ls.length + 1 = n := Nat.succ.inj hn
          by_cases hvl : v = l
          · -- the listener of `v` comes first: it is kept for later
            have hs := step_connected (s := s) (i := 1) (v := l') (by rw [hl]; rfl)
            refine .cons rfl hs (ih (hi.step hs) (l :: ls) ?_ (by simp [hvl]) hn)
            show s.listeners.eraseIdx 1 = l :: ls
            rw [hl]
            rfl
          · have hs := step_connected (s := s) (i := 0) (v := l) (by rw [hl]; rfl)
            refine .cons rfl hs (ih (hi.step hs) (l' :: ls) ?_ ?_ hn)
            · show s.listeners.eraseIdx 0 = l' :: ls
              rw [hl]
              rfl
            · exact (List.mem_cons.mp hv).resolve_left hvl

/-- **When the call-backs cannot disagree.** Every order of the waiting
call-backs leaves `v` set exactly if all of them are going to write it. -/
theorem agreed_iff (hi : s.Reached) :
    (∀ post t, Path step s post t → (∀ y ∈ post, getsThrough y.2 = true) →
      t.listeners = [] → t.currentGpioState = v) ↔ Agreed v s := by
  constructor
  · intro hall
    refine ⟨fun l hl => ?_, fun hempty => hall [] s .nil (by simp) hempty⟩
    obtain ⟨post, t, hp, hpost, hempty, hgpio⟩ := endsWith_of_mem hi hl
    rw [← hgpio]
    exact hall post t hp hpost hempty
  · intro ha post t hp hpost hempty
    have hend : Agreed v t ∧ t.Reached := by
      refine hp.inv (fun u => Agreed v u ∧ u.Reached) (fun _ b => getsThrough b = true)
        ?_ ⟨ha, hi⟩ hpost
      rintro u b w ⟨hau, hu⟩ hb hs
      exact ⟨hau.step hu hb hs, hu.step hs⟩
    exact hend.1.2 hempty

theorem inverse_eq_iff {g sn : Int} (hsn : sn = 0 ∨ sn = 1) (hne : sn ≠ g) :
    inverse g = sn ↔ (sn = 1 → g = 0 ∨ g = 1) := by
  unfold inverse
  rcases hsn with rfl | rfl
  · rw [if_neg (Ne.symm hne)]
    simp
  · split <;> omega

/-- What the last request leaves behind agrees with it. -/
theorem agreed_toggle {sn : Int} (hi : s.Reached) (hsn : sn = 0 ∨ sn = 1) :
    Agreed sn (s.toggleEsimState sn .created) ↔
      (∀ l ∈ s.listeners, l = sn) ∧
        (sn = 1 → s.currentGpioState = 0 ∨ s.currentGpioState = 1) := by
  generalize hu : s.toggleEsimState sn .created = u
  have hcase : StepCase s (.toggle sn .created) u := hu ▸ toggle_cases s sn .created
  cases hcase with
  | same h =>
      refine and_congr_right fun _ => ⟨fun _ h1 => .inr (h ▸ h1), fun _ _ => h.symm⟩
  | direct h hc =>
      have hmodem : ∃ m, (s.setUimPower 0).oplusEsimService = some m := by
        obtain ⟨m, hm⟩ := hi.modem
        exact ⟨m.setUimPower 0, by simp [setUimPower, hm]⟩
      -- on this path nobody waits and the gpio is written at once
      have hnone : s.listeners = [] := hi.direct hc
      show (∀ l ∈ s.listeners, l = sn) ∧ (s.listeners = [] → _ = sn) ↔ _
      rw [currentGpioState_setEsimGpio hmodem, ← inverse_eq_iff hsn h]
      exact and_congr_right fun _ => ⟨fun hg => hg hnone, fun hg _ => hg⟩
  | lost h hc hs => exact absurd rfl hs
  | listen h hc =>
      -- the new listener agrees when the inverse of what was read is `sn`
      rw [← inverse_eq_iff hsn h]
      constructor
      · rintro ⟨hall, -⟩
        exact ⟨fun l hl => hall l (List.mem_append_left _ hl), hall _ (by simp)⟩
      · rintro ⟨hall, hinv⟩
        refine ⟨fun l hl => ?_, fun hempty => ?_⟩
        · rcases List.mem_append.mp hl with hl | hl
          · exact hall l hl
          · rw [List.mem_singleton.mp hl]
            exact hinv
        · -- the request's own listener is waiting
          cases (List.append_eq_nil_iff.mp hempty).2

theorem reached_construct (hasSN220Chipset : Bool) (gpio : Int) :
    (construct hasSN220Chipset gpio).Reached :=
  ⟨⟨⟨gpio, 1⟩, rfl⟩, fun _ => rfl⟩

/-- **When the last request wins.** A run ends in `s`, where the last
request `sn` is made. Every order of the call-backs that are still to come
leaves the gpio at `sn` if and only if the listeners already waiting in `s`
are all going to write `sn` and, for `sn = 1`, the gpio read in `s` is `0`
or `1`. -/
theorem last_request_wins_iff (hasSN220Chipset : Bool) (gpio sn : Int)
    (h : List (EsimController × Action)) (s : EsimController)
    (hp : Path step (construct hasSN220Chipset gpio) h s) (hsn : sn = 0 ∨ sn = 1) :
    (∀ post t, Path step (s.toggleEsimState sn .created) post t →
      (∀ y ∈ post, getsThrough y.2 = true) → t.listeners = [] →
      t.currentGpioState = sn) ↔
    (∀ l ∈ s.listeners, l = sn) ∧
      (sn = 1 → s.currentGpioState = 0 ∨ s.currentGpioState = 1) := by
  have hi : s.Reached := by
    refine hp.inv Reached (fun _ _ => True) ?_ (reached_construct _ gpio) (fun _ _ => trivial)
    intro u b w hu _ hs
    exact hu.step hs
  have ht : (s.toggleEsimState sn .created).Reached :=
    hi.step (a := .toggle sn .created) rfl
  rw [agreed_iff ht, agreed_toggle hi hsn]

/-- The embedded SIM is asked for again while the first listener waits. -/
theorem last_request_wins_iff_twice :
    ∃ r ∈ follow step (construct true 0) [.toggle 1 .created], r.2.listeners = [1] ∧
      ∀ post t, Path step (r.2.toggleEsimState 1 .created) post t →
        (∀ y ∈ post, getsThrough y.2 = true) → t.listeners = [] →
        t.currentGpioState = 1 := by
  have hrun : ∃ r ∈ follow step (construct true 0) [.toggle 1 .created],
      r.2.listeners = [1] ∧ r.2.currentGpioState = 0 := ⟨_, rfl, rfl, rfl⟩
  obtain ⟨r, hr, hl, hg⟩ := hrun
  refine ⟨r, hr, hl, ?_⟩
  apply (last_request_wins_iff true 0 1 r.1 r.2 (path_of_follow hr) (.inr rfl)).mpr
  refine ⟨fun l hmem => ?_, fun _ => .inl hg⟩
  rw [hl] at hmem
  exact List.mem_singleton.mp hmem

/-- **Lost requests.** A request for the tray finds the gpio not yet
switched by the listener before it and changes nothing. And a request for
the embedded SIM inverts a gpio that reads `2`. -/
theorem last_request_lost :
    (∃ r ∈ follow step (construct true 0)
        [.toggle 1 .created, .toggle 0 .created, .connected 0 connection],
      r.2.listeners = [] ∧ r.2.currentGpioState = 1) ∧
    ∃ r ∈ follow step (construct false 2) [.toggle 1 .created],
      r.2.listeners = [] ∧ r.2.currentGpioState = 0 := by
  decide

end EsimController

end OplusHardware.Esim
