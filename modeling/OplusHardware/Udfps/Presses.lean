import OplusHardware.Udfps.Runs

/-!
# Udfps — presses that are taken without an event

A read of the node takes whatever it has notified, and the run thread
posts for it only where `reportEvent` is set. The flag goes down when the
thread sleeps and up at the end of every round of `poll`. So the first
round after a sleep is for what the node still had from before, and a
press that falls into it is lost.
-/

namespace OplusHardware.Udfps

open OplusHardware.Base

namespace UdfpsSensor

variable {s t : UdfpsSensor} {a : Action} {g h : List (UdfpsSensor × Action)}
  {x : UdfpsSensor × Action} {sensorHandle mScreenX mScreenY : Int32}

/-! ## Rounds -/

/-- The step ends a round of `poll` that did not fail. -/
def endsRound (x : UdfpsSensor × Action) : Bool :=
  match x.2, x.1.pc with
  | .relock _ _, .polled (.ready _ _) => true
  | _, _ => false

/-- The run thread goes to sleep until it is enabled. -/
def sleeps (x : UdfpsSensor × Action) : Bool :=
  match x.2 with
  | .loop => !x.1.mStopThread && !x.1.on
  | _ => false

/-- **A round has ended since the run thread last went to sleep**, or since
it started. -/
def RoundEnded (h : List (UdfpsSensor × Action)) : Prop :=
  ∃ old y new, h = old ++ y :: new ∧ endsRound y = true ∧ ∀ z ∈ new, sleeps z = false

theorem not_roundEnded_nil : ¬ RoundEnded [] := by
  rintro ⟨old, y, new, heq, -⟩
  cases old <;> cases heq

/-- One more step: it ends a round, or is no sleep after one. -/
theorem roundEnded_snoc :
    RoundEnded (h ++ [x]) ↔ endsRound x = true ∨ sleeps x = false ∧ RoundEnded h := by
  constructor
  · rintro ⟨old, y, new, heq, hy, hnew⟩
    rcases List.eq_nil_or_concat new with rfl | ⟨init, last, rfl⟩
    · obtain ⟨-, hlast⟩ := List.append_inj' heq rfl
      cases hlast
      exact .inl hy
    · rw [List.concat_eq_append] at heq hnew
      have heq' : h ++ [x] = (old ++ y :: init) ++ [last] := by simpa using heq
      obtain ⟨hinit, hlast⟩ := List.append_inj' heq' rfl
      cases hlast
      obtain ⟨hbefore, hx⟩ := List.forall_mem_append.mp hnew
      exact .inr ⟨hx x (List.mem_singleton_self x), old, y, init, hinit, hy, hbefore⟩
  · rintro (hx | ⟨hx, old, y, new, rfl, hy, hnew⟩)
    · exact ⟨h, x, [], rfl, hx, List.forall_mem_nil _⟩
    · refine ⟨old, y, new ++ [x], by simp, hy, ?_⟩
      exact List.forall_mem_append.mpr ⟨hnew, List.forall_mem_singleton.mpr hx⟩

theorem roundEnded_snoc_of_idle (hround : endsRound x = false) (hsleep : sleeps x = false) :
    RoundEnded (h ++ [x]) ↔ RoundEnded h := by
  rw [roundEnded_snoc, hround, hsleep]
  simp

/-- Where the thread does not go to sleep, every round counts. -/
theorem roundEnded_append (hg : ∀ y ∈ g, sleeps y = false) :
    RoundEnded (h ++ g) ↔ RoundEnded h ∨ ∃ y ∈ g, endsRound y = true := by
  induction g generalizing h with
  | nil => simp
  | cons y g ih =>
      obtain ⟨hy, hg⟩ := List.forall_mem_cons.mp hg
      rw [List.append_cons, ih hg, roundEnded_snoc, hy]
      constructor
      · rintro ((hround | ⟨-, hold⟩) | ⟨z, hz, hround⟩)
        · exact .inr ⟨y, List.mem_cons_self, hround⟩
        · exact .inl hold
        · exact .inr ⟨z, List.mem_cons_of_mem y hz, hround⟩
      · rintro (hold | ⟨z, hz, hround⟩)
        · exact .inl (.inr ⟨rfl, hold⟩)
        · rcases List.mem_cons.mp hz with rfl | hz
          · exact .inl (.inl hround)
          · exact .inr ⟨z, hz, hround⟩

/-! ## The flag of the run thread -/

/-- **One step keeps the flag in line with the rounds.** -/
theorem reportEvent_step (hi : s.reportEvent = true ↔ RoundEnded h)
    (hs : step s a = some t) : t.reportEvent = true ↔ RoundEnded (h ++ [(s, a)]) := by
  have hidle : endsRound (s, a) = false → sleeps (s, a) = false →
      (s.reportEvent = true ↔ RoundEnded (h ++ [(s, a)])) := by
    intro hround hsleep
    rw [roundEnded_snoc_of_idle hround hsleep]
    exact hi
  have hends : endsRound (s, a) = true → (true = true ↔ RoundEnded (h ++ [(s, a)])) := by
    intro hround
    rw [roundEnded_snoc, hround]
    simp
  cases step_cases hs with
  | activateSame hfree hb => exact hidle rfl rfl
  | activateChange hfree hb => exact hidle rfl rfl
  | modeSame hfree hm => exact hidle rfl rfl
  | modeChange hfree hm => exact hidle rfl rfl
  | interrupt hc => exact hidle rfl rfl
  | notify => exact hidle rfl rfl
  | begin hp => exact hidle rfl rfl
  | finish hp hstop => exact hidle rfl (by simp [sleeps, hstop])
  | sleep hp hstop hon =>
      rw [roundEnded_snoc]
      simp [endsRound, sleeps, hstop, hon]
  | poll hp hstop hon => exact hidle rfl (by simp [sleeps, hon])
  | wakeUp hp hon => exact hidle rfl rfl
  | sleepOn hp hon => exact hidle rfl rfl
  | pollReturn hp hready => exact hidle rfl rfl
  | pollFail hp => exact hidle rfl rfl
  | failed hp => exact hidle (by simp [endsRound, hp]) rfl
  | post hp hread hreport => exact hends (by simp [endsRound, hp])
  | discard hp hquiet => exact hends (by simp [endsRound, hp])
  | drain hp => exact hends (by simp [endsRound, hp])

theorem reportEvent_iff (hp : Run sensorHandle mScreenX mScreenY h t) :
    t.reportEvent = true ↔ RoundEnded h := by
  refine hp.history_inv (fun h s => s.reportEvent = true ↔ RoundEnded h) (fun _ _ => True)
    (fun h s a t hi _ hs => reportEvent_step hi hs) ?_ (fun _ _ => trivial)
  constructor
  · intro hstart
    cases hstart
  · intro hround
    exact absurd hround not_roundEnded_nil

/-! ## Presses -/

/-- The read of the step yields a state above `0`. -/
def yieldsPress (x : UdfpsSensor × Action) : Bool :=
  match x.2 with
  | .relock io _ => (readFpState io x.1.mScreenX x.1.mScreenY).pressed
  | _ => false

/-- A read that yields a press posts it where the flag is set. -/
theorem posts_iff_reportEvent (hread : reads x = true) (hpress : yieldsPress x = true) :
    posts x = true ↔ x.1.reportEvent = true := by
  obtain ⟨s, a⟩ := x
  unfold reads at hread
  split at hread
  · rename_i io now pipe fp ha hp
    have ha : a = .relock io now := ha
    subst ha hread
    have hpc : s.pc = .polled (.ready pipe true) := hp
    have hpressed : (readFpState io s.mScreenX s.mScreenY).pressed = true := hpress
    have hposted : s.posted (.relock io now) =
        if s.fires true io then (s.readNode true io).readEvents now else [] := by
      simp only [posted, hpc]
    rw [posts, hposted, fires, hpressed]
    cases s.reportEvent with
    | true => simp [readEvents]
    | false => simp
  · cases hread

/-- The thread does not go to sleep where the sensor is on. -/
theorem sleeps_of_on (hon : x.1.on = true) : sleeps x = false := by
  unfold sleeps
  split
  · rw [hon]
    simp
  · rfl

/-- **When a press is posted.** In every run, take a read of the node that
comes after an `activate(true)` has returned, with the sensor on from then
on, and that yields a state above `0`. It takes what the node has notified
up to then, and posts an event for it exactly when some round of `poll`
has ended before: since the activation, or before the activation since the
thread last slept. -/
theorem press_posted_iff (sensorHandle mScreenX mScreenY : Int32)
    (pre mid post : List (UdfpsSensor × Action)) (act x : UdfpsSensor × Action)
    (t : UdfpsSensor)
    (hp : Run sensorHandle mScreenX mScreenY (pre ++ act :: (mid ++ x :: post)) t)
    (hact : act.2 = .activate true) (hon : ∀ y ∈ mid, y.1.on = true)
    (hread : reads x = true) (hpress : yieldsPress x = true) :
    posts x = true ↔ RoundEnded pre ∨ ∃ y ∈ mid, endsRound y = true := by
  have hcut : Run sensorHandle mScreenX mScreenY ((pre ++ act :: mid) ++ x :: post) t := by
    simpa using hp
  obtain ⟨hbefore, -⟩ := hcut.at_step
  have hround : endsRound act = false := by
    unfold endsRound
    rw [hact]
  have hsleep : sleeps act = false := by
    unfold sleeps
    rw [hact]
  have hawake : ∀ y ∈ act :: mid, sleeps y = false :=
    List.forall_mem_cons.mpr ⟨hsleep, fun y hy => sleeps_of_on (hon y hy)⟩
  rw [posts_iff_reportEvent hread hpress, reportEvent_iff hbefore, roundEnded_append hawake]
  simp [hround]

/-- The steps up to the activation, and from it to the read. -/
def untilAsleep : List Action := [.begin, .loop]

def pressInFirstRound : List Action := [.wake false, .loop, .notifyFpState, .pollReturn]

def pressInSecondRound : List Action :=
  [.wake false, .loop, .pollReturn, .relock pressAt 1, .loop, .notifyFpState, .pollReturn]

/-- A run up to the activation, from there to the read, and the read. -/
theorem run_of_follow {before after : List Action}
    {r q : List (UdfpsSensor × Action) × UdfpsSensor} {u v : UdfpsSensor}
    (hr : r ∈ follow step (construct sensorHandle mScreenX mScreenY) before)
    (hu : u ∈ step r.2 (.activate true)) (hq : q ∈ follow step u after)
    (hv : v ∈ step q.2 a) :
    Run sensorHandle mScreenX mScreenY
      (r.1 ++ (r.2, .activate true) :: (q.1 ++ [(q.2, a)])) v :=
  (path_of_follow hr).append (.cons hu ((path_of_follow hq).snoc hv))

theorem press_posted_iff_second_round :
    ∃ r ∈ follow step (construct 1 0 0) untilAsleep, ∃ u ∈ step r.2 (.activate true),
      ∃ q ∈ follow step u pressInSecondRound, posts (q.2, .relock pressAt 2) = true := by
  have hrun : ∃ r ∈ follow step (construct 1 0 0) untilAsleep,
      ∃ u ∈ step r.2 (.activate true), ∃ q ∈ follow step u pressInSecondRound,
        (∀ y ∈ q.1, y.1.on = true) ∧ reads (q.2, .relock pressAt 2) = true ∧
        yieldsPress (q.2, .relock pressAt 2) = true ∧
        (∃ y ∈ q.1, endsRound y = true) ∧
        ∃ v ∈ step q.2 (.relock pressAt 2), v.fpPending = false := by
    decide +kernel
  obtain ⟨r, hr, u, hu, q, hq, hon, hread, hpress, hround, v, hv, -⟩ := hrun
  refine ⟨r, hr, u, hu, q, hq, ?_⟩
  exact (press_posted_iff 1 0 0 r.1 q.1 [] (r.2, .activate true) (q.2, .relock pressAt 2) v
    (run_of_follow hr hu hq hv) rfl hon hread hpress).mpr (.inr hround)

/-- **A press that is swallowed.** The node notifies after `activate(true)`
has returned, the sensor is on all the time, the read yields a press and
clears the notification, and no event is posted. -/
theorem press_swallowed :
    ∃ r ∈ follow step (construct 1 0 0) untilAsleep, ∃ u ∈ step r.2 (.activate true),
      ∃ q ∈ follow step u pressInFirstRound,
        (∀ y ∈ q.1, y.1.on = true) ∧ q.2.on = true ∧ q.2.fpPending = true ∧
        reads (q.2, .relock pressAt 1) = true ∧
        yieldsPress (q.2, .relock pressAt 1) = true ∧
        posts (q.2, .relock pressAt 1) = false ∧
        ∃ v ∈ step q.2 (.relock pressAt 1), v.fpPending = false ∧ v.on = true := by
  decide +kernel

end UdfpsSensor

end OplusHardware.Udfps
