import Mathlib.Data.List.Chain
import OplusHardware.AlertSlider.KeyHandler

/-!
# AlertSlider — waiting for the zen mode

The loop of `setZenMode` ends when it samples the mode that was requested.
The executor can only get stuck in it when the mode is taken back between
the commit and the sample.
-/

namespace OplusHardware.AlertSlider

open OplusHardware.Base

/-- Each wait behind the first instruction directly follows its request. -/
def RequestsFirst (is : List Instr) : Prop :=
  is.IsChain fun i j => ∀ z, j = .awaitZenMode z → i = .requestZenMode z

theorem requestsFirst_program (task : Task) : RequestsFirst task.program := by
  unfold Task.program switchMode feedback setZenMode
  split_ifs <;> simp [RequestsFirst]

theorem program_ne_await (task : Task) (z : Int) (is : List Instr) :
    task.program ≠ .awaitZenMode z :: is := by
  unfold Task.program switchMode feedback setZenMode
  split_ifs <;> simp

theorem RequestsFirst.tail {i : Instr} {is : List Instr} (h : RequestsFirst (i :: is)) :
    RequestsFirst is :=
  List.IsChain.tail h

/-- The branch of the test puts no wait in front. -/
theorem RequestsFirst.branch {i : Instr} {is : List Instr} {muteMedia : Bool}
    (h : RequestsFirst (.testWasMuted muteMedia :: is)) : RequestsFirst (i :: is) := by
  cases is with
  | nil => exact List.isChain_singleton i
  | cons j is =>
      obtain ⟨hj, his⟩ := List.isChain_cons_cons.mp h
      refine List.isChain_cons_cons.mpr ⟨?_, his⟩
      intro z hz
      cases hj z hz

namespace KeyHandler

variable {s t : KeyHandler} {a : Action} {h : List (KeyHandler × Action)}
  {i : Instr} {is : List Instr}

/-- **Stuck**: the executor waits for a mode that is not set and that no
request is going to set. -/
def Stuck (s : KeyHandler) : Prop :=
  ∃ z is, s.executorService.running = .awaitZenMode z :: is ∧ s.zenMode ≠ z ∧ z ∉ s.requests

/-- The mode that is waited for is set, no request for it is left, and the
step sets another one. -/
def movesAway (s : KeyHandler) (a : Action) : Bool :=
  match s.executorService.running with
  | .awaitZenMode z :: _ =>
      s.zenMode = z && !s.requests.contains z &&
        match a with
        | .otherZen v => v ≠ z
        | .commitZen k => s.requests[k]?.isSome
        | _ => false
  | _ => false

/-- What the executor waits for is set or requested. -/
structure Served (s : KeyHandler) : Prop where
  requestsFirst : RequestsFirst s.executorService.running
  served : ∀ z is, s.executorService.running = .awaitZenMode z :: is →
    s.zenMode = z ∨ z ∈ s.requests

theorem Served.not_stuck (hi : s.Served) : ¬ s.Stuck := by
  rintro ⟨z, is, hrun, hne, hmem⟩
  rcases hi.served z is hrun with heq | hreq
  · exact hne heq
  · exact hmem hreq

/-- Steps that leave the executor and the zen mode alone. -/
theorem Served.congr (hi : s.Served) (he : t.executorService.running = s.executorService.running)
    (hz : t.zenMode = s.zenMode) (hr : t.requests = s.requests) : t.Served := by
  constructor
  · rw [he]
    exact hi.requestsFirst
  · intro z is hrun
    rw [he] at hrun
    rw [hz, hr]
    exact hi.served z is hrun

/-- On to an instruction that is not a wait of an earlier request. -/
theorem Served.next (hi : s.Served) (hrun : s.executorService.running = i :: is)
    (hi' : ∀ z, i ≠ .requestZenMode z) (he : t.executorService.running = is) : t.Served := by
  have hchain := hi.requestsFirst
  rw [hrun] at hchain
  constructor
  · rw [he]
    exact hchain.tail
  · intro z is' hrun'
    rw [he] at hrun'
    subst hrun'
    exact absurd ((List.isChain_cons_cons.mp hchain).1 z rfl) (hi' z)

theorem Served.run (hi : s.Served) (hrun : s.executorService.running = i :: is) :
    (s.runInstr is i).Served := by
  have hchain := hi.requestsFirst
  rw [hrun] at hchain
  cases i with
  | requestZenMode z =>
      constructor
      · exact hchain.tail
      · intro z' is' hrun'
        have heq : is = .awaitZenMode z' :: is' := hrun'
        subst heq
        -- the wait is for the mode that was just requested
        have hz := (List.isChain_cons_cons.mp hchain).1 z' rfl
        cases hz
        exact .inr (by simp [runInstr])
  | awaitZenMode z =>
      simp only [runInstr]
      split
      · exact hi.next hrun (by simp) rfl
      · exact hi
  | setRingerMode mode => exact hi.next hrun (by simp) rfl
  | adjustMute => exact hi.next hrun (by simp) rfl
  | setWasMuted => exact hi.next hrun (by simp) rfl
  | testWasMuted muteMedia =>
      cases hb : muteMedia && s.wasMuted with
      | true =>
          simp only [runInstr, hb]
          constructor
          · exact hchain.branch
          · intro z is' hrun'
            cases hrun'
      | false =>
          simp only [runInstr, hb]
          exact hi.next hrun (by simp) rfl
  | adjustUnmute => exact hi.next hrun (by simp) rfl
  | sendNotification position mode => exact hi.next hrun (by simp) rfl
  | vibrateIfNeeded mode => exact hi.next hrun (by simp) rfl

/-- The zen mode changes, by a step that does not move it away. -/
theorem Served.setZen (hi : s.Served) {v : Int} {rs : List Int}
    (hkeep : ∀ z is, s.executorService.running = .awaitZenMode z :: is →
      s.zenMode = z → z ∉ s.requests → v = z)
    (hmem : ∀ z ∈ s.requests, z = v ∨ z ∈ rs) :
    Served { s with zenMode := v, requests := rs } := by
  refine ⟨hi.requestsFirst, ?_⟩
  intro z is hrun
  by_cases hreq : z ∈ s.requests
  · rcases hmem z hreq with rfl | hz
    · exact .inl rfl
    · exact .inr hz
  · rcases hi.served z is hrun with heq | hz
    · exact .inl (hkeep z is hrun heq hreq)
    · exact absurd hz hreq

theorem served_step (hi : s.Served) (hok : movesAway s a = false) (hs : step s a = some t) :
    t.Served := by
  cases step_cases hs with
  | slide text => exact hi.congr rfl rfl rfl
  | setPreferences p => exact hi.congr rfl rfl rfl
  | readInput _ _ => exact hi.congr rfl rfl rfl
  | readMain _ _ => exact hi.congr rfl rfl rfl
  | readPreferences thread _ _ =>
      simp only [readPreferences]
      split <;> exact hi.congr rfl rfl rfl
  | submit thread _ _ => exact hi.congr rfl rfl rfl
  | @start task q hrun hq =>
      refine ⟨requestsFirst_program task, ?_⟩
      intro z is hrun'
      exact absurd hrun' (program_ne_await task z is)
  | run hrun => exact hi.run hrun
  | @commitZen k z hz =>
      apply hi.setZen
      · intro z' is hrun heq hreq
        simp [movesAway, hrun, heq, hreq, hz] at hok
      · intro z' hmem
        obtain ⟨j, hj⟩ := List.mem_iff_getElem?.mp hmem
        by_cases hjk : j = k
        · subst hjk
          rw [hz] at hj
          cases hj
          exact .inl rfl
        · exact .inr (List.mem_eraseIdx_iff_getElem?.mpr ⟨j, hjk, hj⟩)
  | otherZen v =>
      apply hi.setZen
      · intro z is hrun heq hreq
        simpa [movesAway, hrun, heq, hreq] using hok
      · intro z hmem
        exact .inr hmem
  | userMute v => exact hi.congr rfl rfl rfl
  | otherStream _ _ => exact hi.congr rfl rfl rfl
  | broadcast _ _ =>
      simp only [onMuteChanged]
      split <;> exact hi.congr rfl rfl rfl

theorem stuck_of_movesAway (hmove : movesAway s a = true) (hs : step s a = some t) :
    t.Stuck := by
  unfold movesAway at hmove
  split at hmove
  · rename_i z is hrun
    simp only [Bool.and_eq_true, decide_eq_true_eq, Bool.not_eq_true',
      List.contains_eq_mem, decide_eq_false_iff_not] at hmove
    obtain ⟨⟨hz, hreq⟩, hset⟩ := hmove
    cases step_cases hs with
    | otherZen v => exact ⟨z, is, hrun, by simpa using hset, hreq⟩
    | @commitZen k v hv =>
        refine ⟨z, is, hrun, ?_, fun hmem => hreq (List.mem_of_mem_eraseIdx hmem)⟩
        rintro rfl
        exact hreq (List.mem_of_getElem? hv)
    | _ => cases hset
  · cases hmove

/-- **The executor is stuck nowhere in a run exactly when no step takes the
zen mode back** between its commit and the sample that waits for it. -/
theorem executor_not_stuck_iff {p : Preferences} {node : List Char} {ringerMode zenMode : Int}
    {muted : Bool} (hp : Path step (construct p node ringerMode zenMode muted) h t) :
    ((∀ x ∈ h, ¬ x.1.Stuck) ∧ ¬ t.Stuck) ↔ ∀ x ∈ h, movesAway x.1 x.2 = false := by
  refine Path.always_iff (fun s => ¬ s.Stuck) Served (fun s a => movesAway s a = false)
    ?_ ?_ ?_ hp ?_
  · intro s a u hi hok hs
    exact served_step hi hok hs
  · intro s hi
    exact hi.not_stuck
  · intro s a u _ hmove hs
    rw [Bool.not_eq_false] at hmove
    exact not_not_intro (stuck_of_movesAway hmove hs)
  · refine ⟨List.IsChain.nil, ?_⟩
    intro z is hrun
    cases hrun

/-- After boot with the slider at the top: the task requests a zen mode
that is not set, and it is committed. -/
def firstRequest : List Action :=
  [.readNode .main, .readPreferences .main, .submit .main, .exec, .exec, .commitZen 0]

theorem executor_not_stuck_iff_firstRequest :
    ∃ r ∈ follow step (construct defaultPreferences ['1', '\n'] 2 1 false) firstRequest,
      (∀ x ∈ r.1, ¬ x.1.Stuck) ∧ ¬ r.2.Stuck := by
  have hrun : ∃ r ∈ follow step (construct defaultPreferences ['1', '\n'] 2 1 false)
      firstRequest, ∀ x ∈ r.1, movesAway x.1 x.2 = false := by
    decide
  obtain ⟨r, hr, hok⟩ := hrun
  exact ⟨r, hr, (executor_not_stuck_iff (path_of_follow hr)).mpr hok⟩

/-- **A hung executor**: another app sets the old mode again before the
loop samples. -/
theorem stuck_after_foreign_write :
    ∃ r ∈ follow step (construct defaultPreferences ['1', '\n'] 2 1 false)
        (firstRequest ++ [.otherZen 1]),
      r.2.Stuck := by
  refine ⟨_, rfl, 0, _, rfl, ?_, ?_⟩
  · decide
  · decide

end KeyHandler

end OplusHardware.AlertSlider
